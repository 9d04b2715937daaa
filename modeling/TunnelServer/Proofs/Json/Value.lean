import TunnelServer.Json.Parser
import TunnelServer.Proofs.Json.Token

/-!
# Values that are written and read

A value is read from its text, whatever its depth: its tokens are read back, since no number stands next
to another, and the machine that takes them arrives at the value with the brackets open around it as
they were.  A text is read from the string that holds it, and a natural number from its digits.
-/

namespace TunnelServer.Json

/-! ## The code points of a text -/

theorem isPlain_pointsOf (text : String) : (Token.string (pointsOf text)).IsPlain := by
  intro point among
  rcases List.mem_map.mp among with ⟨character, -, rfl⟩
  rcases character.valid with low | ⟨-, high⟩
  · exact Nat.lt_trans low (by decide)
  · exact high

theorem not_isSurrogate_toNat (character : Char) :
    isHighSurrogate character.toNat = false ∧ isLowSurrogate character.toNat = false := by
  have valid : character.toNat.isValidChar := character.valid
  simp only [Nat.isValidChar] at valid
  simp only [isHighSurrogate, isLowSurrogate, Bool.and_eq_false_iff, decide_eq_false_iff_not]
  omega

theorem charactersOf?_pointsOf (text : String) :
    charactersOf? (pointsOf text) = some text.toList := by
  rw [pointsOf]
  induction text.toList with
  | nil => rfl
  | cons character characters hypothesis =>
      rcases not_isSurrogate_toNat character with ⟨high, low⟩
      rw [List.map_cons, charactersOf?.eq_def]
      simp only [high, low, hypothesis, Char.ofNat_toNat, Bool.false_eq_true, if_false,
        Option.map_some]

namespace Value

/-- A value whose strings are of code points and whose numbers are natural. -/
def IsPlain (value : Value) : Prop := ∀ token ∈ value.tokens, token.IsPlain

theorem isPlain_array_iff {items : List Value} :
    (array items).IsPlain ↔ ∀ token ∈ itemTokens items, token.IsPlain := by
  rw [IsPlain, tokens, List.cons_append, List.forall_mem_cons, List.forall_mem_append,
    List.forall_mem_singleton]
  exact ⟨fun plain => plain.2.1, fun inside => ⟨trivial, inside, trivial⟩⟩

theorem isPlain_object_iff {members : List (List Nat × Value)} :
    (object members).IsPlain ↔ ∀ token ∈ memberTokens members, token.IsPlain := by
  rw [IsPlain, tokens, List.cons_append, List.forall_mem_cons, List.forall_mem_append,
    List.forall_mem_singleton]
  exact ⟨fun plain => plain.2.1, fun inside => ⟨trivial, inside, trivial⟩⟩

/-! ## The tokens of a value -/

mutual

theorem readBack_tokens (value : Value) (plain : value.IsPlain) : ReadBack value.tokens := by
  match value with
  | .null => exact readBack_singleton trivial
  | .bool _ => exact readBack_singleton trivial
  | .number _ => exact readBack_singleton (plain _ List.mem_cons_self)
  | .string _ => exact readBack_singleton (plain _ List.mem_cons_self)
  | .array items =>
      have inside := readBack_itemTokens items (isPlain_array_iff.mp plain)
      rw [tokens]
      exact readBack_nil.append_cons trivial id (inside.append_cons trivial id readBack_nil)
  | .object members =>
      have inside := readBack_memberTokens members (isPlain_object_iff.mp plain)
      rw [tokens]
      exact readBack_nil.append_cons trivial id (inside.append_cons trivial id readBack_nil)

theorem readBack_itemTokens (items : List Value)
    (plain : ∀ token ∈ itemTokens items, token.IsPlain) : ReadBack (itemTokens items) := by
  match items with
  | [] => exact readBack_nil
  | [item] => exact readBack_tokens item plain
  | item :: next :: rest =>
      rw [itemTokens] at plain ⊢
      rw [List.forall_mem_append, List.forall_mem_cons] at plain
      exact (readBack_tokens item plain.1).append_cons trivial id
        (readBack_itemTokens (next :: rest) plain.2.2)

theorem readBack_memberTokens (members : List (List Nat × Value))
    (plain : ∀ token ∈ memberTokens members, token.IsPlain) : ReadBack (memberTokens members) := by
  match members with
  | [] => exact readBack_nil
  | [(key, value)] =>
      rw [memberTokens] at plain ⊢
      rw [List.forall_mem_cons, List.forall_mem_cons] at plain
      exact (readBack_singleton plain.1).append_cons trivial id (readBack_tokens value plain.2.2)
  | (key, value) :: next :: rest =>
      rw [memberTokens] at plain ⊢
      rw [List.forall_mem_append, List.forall_mem_cons, List.forall_mem_cons, List.forall_mem_cons]
        at plain
      have member := (readBack_singleton plain.1.1).append_cons plain.1.2.1 id
        (readBack_tokens value plain.1.2.2)
      exact member.append_cons trivial id (readBack_memberTokens (next :: rest) plain.2.2)

end

/-! ## The machine -/

open Machine (step?)

/-- After an opening bracket the first item is begun as any other. -/
theorem foldlM_firstItem (item : Value) (items : List Value) (stack : List Frame)
    (later : List Token) :
    (itemTokens (item :: items) ++ later).foldlM step? ⟨.firstItem, stack⟩ =
      (itemTokens (item :: items) ++ later).foldlM step? ⟨.value, stack⟩ := by
  cases items <;> cases item <;> rfl

theorem foldlM_firstKey (member : List Nat × Value) (members : List (List Nat × Value))
    (stack : List Frame) (later : List Token) :
    (memberTokens (member :: members) ++ later).foldlM step? ⟨.firstKey, stack⟩ =
      (memberTokens (member :: members) ++ later).foldlM step? ⟨.key [], stack⟩ := by
  cases members <;> rfl

mutual

/-- The tokens of a value complete it, and the open brackets stay as they are. -/
theorem foldlM_tokens (value : Value) (stack : List Frame) (later : List Token) :
    (value.tokens ++ later).foldlM step? ⟨.value, stack⟩ =
      later.foldlM step? ⟨.complete value, stack⟩ := by
  match value with
  | .null => rfl
  | .bool _ => rfl
  | .number _ => rfl
  | .string _ => rfl
  | .array items =>
      rw [tokens, List.append_assoc]
      exact foldlM_itemTokens items [] stack later
  | .object [] => rfl
  | .object (member :: members) =>
      have opened := foldlM_firstKey member members stack (.closeObject :: later)
      rw [tokens, List.append_assoc]
      exact opened.trans (foldlM_memberTokens (member :: members) nofun [] stack later)

/-- The items of an array join those that are done, and the closing bracket completes it. -/
theorem foldlM_itemTokens (items done : List Value) (stack : List Frame) (later : List Token) :
    (itemTokens items ++ .closeArray :: later).foldlM step? ⟨.firstItem, .array done :: stack⟩ =
      later.foldlM step? ⟨.complete (.array (done.reverse ++ items)), stack⟩ := by
  match items with
  | [] =>
      rw [List.append_nil]
      rfl
  | [item] =>
      have completed := foldlM_tokens item (.array done :: stack) (.closeArray :: later)
      rw [foldlM_firstItem, ← List.reverse_cons]
      exact completed
  | item :: next :: rest =>
      have completed := foldlM_tokens item (.array done :: stack)
        (.comma :: (itemTokens (next :: rest) ++ .closeArray :: later))
      have others := foldlM_itemTokens (next :: rest) (item :: done) stack later
      rw [foldlM_firstItem, List.reverse_cons, List.append_assoc, List.singleton_append] at others
      rw [foldlM_firstItem, itemTokens, List.append_assoc]
      exact completed.trans others

theorem foldlM_memberTokens (members : List (List Nat × Value)) (filled : members ≠ [])
    (done : List (List Nat × Value)) (stack : List Frame) (later : List Token) :
    (memberTokens members ++ .closeObject :: later).foldlM step? ⟨.key done, stack⟩ =
      later.foldlM step? ⟨.complete (.object (done.reverse ++ members)), stack⟩ := by
  match members with
  | [] => exact absurd rfl filled
  | [(key, value)] =>
      have completed := foldlM_tokens value (.object done key :: stack) (.closeObject :: later)
      rw [← List.reverse_cons]
      exact completed
  | (key, value) :: next :: rest =>
      have completed := foldlM_tokens value (.object done key :: stack)
        (.comma :: (memberTokens (next :: rest) ++ .closeObject :: later))
      have others := foldlM_memberTokens (next :: rest) nofun ((key, value) :: done) stack later
      rw [List.reverse_cons, List.append_assoc, List.singleton_append] at others
      rw [memberTokens, List.append_assoc]
      exact completed.trans others

end

/-! ## Texts -/

theorem ofTokens?_tokens (value : Value) : ofTokens? value.tokens = some value := by
  have run := foldlM_tokens value [] []
  rw [List.append_nil] at run
  rw [ofTokens?, Machine.start, run]
  rfl

/-- Every plain value is read from its text. -/
theorem parse?_toText (value : Value) (plain : value.IsPlain) :
    parse? value.toText = some value := by
  rw [parse?, toText, write, String.toList_ofList,
    tokens?_of_readBack (readBack_tokens value plain)]
  exact ofTokens?_tokens value

/-! ## Plain values -/

theorem isPlain_ofText (text : String) : (ofText text).IsPlain := by
  intro token among
  rw [ofText, tokens, List.mem_singleton] at among
  rw [among]
  exact isPlain_pointsOf text

theorem isPlain_ofNatural (number : Nat) : (ofNatural number).IsPlain := by
  intro token among
  rw [ofNatural, tokens, List.mem_singleton] at among
  rw [among]
  exact ⟨number, rfl⟩

theorem isPlain_of_mem_itemTokens {items : List Value} (plain : ∀ item ∈ items, item.IsPlain)
    {token : Token} (among : token ∈ itemTokens items) : token.IsPlain := by
  match items with
  | [] => cases among
  | [item] => exact plain item List.mem_cons_self token among
  | item :: next :: rest =>
      rw [itemTokens, List.mem_append, List.mem_cons] at among
      rw [List.forall_mem_cons] at plain
      rcases among with inside | rfl | later
      · exact plain.1 token inside
      · trivial
      · exact isPlain_of_mem_itemTokens plain.2 later

theorem isPlain_of_mem_memberTokens {members : List (List Nat × Value)}
    (plain : ∀ member ∈ members, (Token.string member.1).IsPlain ∧ member.2.IsPlain)
    {token : Token} (among : token ∈ memberTokens members) : token.IsPlain := by
  match members with
  | [] => cases among
  | [(key, value)] =>
      rw [memberTokens, List.mem_cons, List.mem_cons] at among
      rw [List.forall_mem_singleton] at plain
      rcases among with rfl | rfl | inside
      · exact plain.1
      · trivial
      · exact plain.2 token inside
  | (key, value) :: next :: rest =>
      rw [memberTokens, List.mem_append, List.mem_cons, List.mem_cons, List.mem_cons] at among
      rw [List.forall_mem_cons] at plain
      rcases among with (rfl | rfl | inside) | rfl | later
      · exact plain.1.1
      · trivial
      · exact plain.1.2 token inside
      · trivial
      · exact isPlain_of_mem_memberTokens plain.2 later

theorem isPlain_array {items : List Value} (plain : ∀ item ∈ items, item.IsPlain) :
    (array items).IsPlain :=
  isPlain_array_iff.mpr fun _ among => isPlain_of_mem_itemTokens plain among

theorem isPlain_object {members : List (List Nat × Value)}
    (plain : ∀ member ∈ members, (Token.string member.1).IsPlain ∧ member.2.IsPlain) :
    (object members).IsPlain :=
  isPlain_object_iff.mpr fun _ among => isPlain_of_mem_memberTokens plain among

/-! ## Texts and natural numbers in values -/

theorem text?_ofText (text : String) : (ofText text).text? = some text := by
  simp only [text?, ofText, charactersOf?_pointsOf, Option.map_some, String.ofList_toList]

theorem natural?_ofNatural (number : Nat) : (ofNatural number).natural? = some number := by
  have digits : (Nat.toDigits 10 number).all Char.isDigit := by
    rw [List.all_eq_true]
    exact fun _ among => isDigit_of_mem_toDigits among
  have step : (fun total digit => 10 * total + (digit.toNat - '0'.toNat) : Nat → Char → Nat) =
      fun total digit => total * 10 + (digit.toNat - 0x30) := by
    funext total digit
    rw [Nat.mul_comm]
    rfl
  have number := Nat.ofDigitChars_ten_toDigits (n := number)
  rw [Nat.ofDigitChars_eq_foldl, step] at number
  simp only [natural?, ofNatural, digits, if_true, number]

theorem ofText_inj {text other : String} : ofText text = ofText other ↔ text = other := by
  refine ⟨fun same => ?_, congrArg ofText⟩
  have read := congrArg text? same
  rw [text?_ofText, text?_ofText] at read
  exact Option.some.inj read

theorem ofNatural_inj {number other : Nat} : ofNatural number = ofNatural other ↔ number = other := by
  refine ⟨fun same => ?_, congrArg ofNatural⟩
  have read := congrArg natural? same
  rw [natural?_ofNatural, natural?_ofNatural] at read
  exact Option.some.inj read

end Value

end TunnelServer.Json
