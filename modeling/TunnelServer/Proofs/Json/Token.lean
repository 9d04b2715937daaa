import Mathlib.Tactic.ByContra
import Mathlib.Tactic.SplitIfs
import TunnelServer.Json.Token
import TunnelServer.Proofs.Text.Numeral

/-!
# Tokens that are written and read

A string is read back whatever code points it has, lone surrogates and controls included, and a natural
number where nothing follows that could belong to it.  Every other token is read back wherever it
stands.
-/

namespace TunnelServer.Json

variable {rest : List Char} {point : Nat}

/-! ## Strings -/

theorem fourHex?_of_isSome {first second third fourth : Char}
    (digits : ∀ character ∈ [first, second, third, fourth],
      (Numeral.digitValue? 16 character).isSome) :
    fourHex? first second third fourth = some (Numeral.value 16
      ([first, second, third, fourth].filterMap (Numeral.digitValue? 16))) := by
  simp only [List.forall_mem_cons, Option.isSome_iff_exists] at digits
  rcases digits with ⟨⟨a, first⟩, ⟨b, second⟩, ⟨c, third⟩, ⟨d, fourth⟩, -⟩
  simp [fourHex?, first, second, third, fourth, Numeral.value]

/-- The hexadecimal digits of a code point, with zeros in front so that there are four at least. -/
def fourDigits (point : Nat) : List Char :=
  List.replicate (4 - (Nat.toDigits 16 point).length) '0' ++ Nat.toDigits 16 point

theorem length_fourDigits (small : point < 0x10000) : (fourDigits point).length = 4 := by
  have few : (Nat.toDigits 16 point).length ≤ 4 :=
    (Nat.length_toDigits_le_iff (by decide) (by decide)).mpr small
  rw [fourDigits, List.length_append, List.length_replicate]
  omega

theorem isSome_of_mem_fourDigits {character : Char} (among : character ∈ fourDigits point) :
    (Numeral.digitValue? 16 character).isSome := by
  rcases List.mem_append.mp among with zero | digit
  · rw [List.eq_of_mem_replicate zero]
    rfl
  · exact Numeral.digitValue?_of_mem_write (by decide) (by decide) digit

theorem value_replicate_zero (count : Nat) (digits : List Nat) :
    Numeral.value 16 (List.replicate count 0 ++ digits) = Numeral.value 16 digits := by
  induction count with
  | zero => rfl
  | succ count hypothesis => exact hypothesis

theorem value_fourDigits (point : Nat) :
    Numeral.value 16 ((fourDigits point).filterMap (Numeral.digitValue? 16)) = point := by
  have zero : Numeral.digitValue? 16 '0' = some 0 := rfl
  rw [fourDigits, List.filterMap_append, List.filterMap_replicate_of_some zero,
    value_replicate_zero]
  exact Numeral.value_digits (by decide) (by decide) point

/-- A code point below `0x10000` is escaped with four digits. -/
theorem numericEscape_eq (small : point < 0x10000) : ∃ first second third fourth,
    numericEscape point = ['\\', 'u', first, second, third, fourth] ∧
      fourHex? first second third fourth = some point := by
  have four := length_fourDigits small
  have digits : ∀ character ∈ fourDigits point, (Numeral.digitValue? 16 character).isSome :=
    fun _ => isSome_of_mem_fourDigits
  have value := value_fourDigits point
  rw [numericEscape, List.append_assoc, ← fourDigits]
  generalize fourDigits point = written at four digits value ⊢
  match written, four with
  | [first, second, third, fourth], _ =>
      refine ⟨first, second, third, fourth, rfl, ?_⟩
      rw [fourHex?_of_isSome digits, value]

theorem readString?_numericEscape (small : point < 0x10000) :
    readString? (numericEscape point ++ rest) =
      (readString? rest).map (Prod.map (point :: ·) id) := by
  rcases numericEscape_eq small with ⟨first, second, third, fourth, written, found⟩
  simp only [written, List.cons_append, List.nil_append, readString?, found]

theorem readString?_shortEscape {letter : Char} (found : shortEscape? letter = some point) :
    readString? ('\\' :: letter :: rest) =
      (readString? rest).map (Prod.map (point :: ·) id) := by
  rw [readString?.eq_def]
  split <;> rename_i same <;> cases same
  · cases found
  · rw [found]
  · rename_i nothing _
    exact absurd rfl (nothing letter rest rfl)

theorem readString?_cons {character : Char} (quote : character.toNat ≠ 0x22)
    (backslash : character.toNat ≠ 0x5c) (visible : 0x20 ≤ character.toNat) :
    readString? (character :: rest) =
      (readString? rest).map (Prod.map (character.toNat :: ·) id) := by
  rw [readString?.eq_def]
  split <;> rename_i same <;> cases same
  · exact absurd rfl quote
  · exact absurd rfl backslash
  · exact absurd rfl backslash
  · exact absurd rfl backslash
  · rw [if_neg (Nat.not_lt.mpr visible)]

theorem toNat_ofNat (scalar : point.isValidChar) : (Char.ofNat point).toNat = point := by
  rw [Char.ofNat, dif_pos scalar]
  rfl

/-- Every code point of a string is read from the way it stands there. -/
theorem readString?_writePoint (valid : point < 0x110000) :
    readString? (writePoint point ++ rest) =
      (readString? rest).map (Prod.map (point :: ·) id) := by
  rw [writePoint]
  split_ifs with quote backslash backspace tab newline formFeed carriage hidden
  · exact readString?_shortEscape (congrArg some quote.symm)
  · exact readString?_shortEscape (congrArg some backslash.symm)
  · exact readString?_shortEscape (congrArg some backspace.symm)
  · exact readString?_shortEscape (congrArg some tab.symm)
  · exact readString?_shortEscape (congrArg some newline.symm)
  · exact readString?_shortEscape (congrArg some formFeed.symm)
  · exact readString?_shortEscape (congrArg some carriage.symm)
  · apply readString?_numericEscape
    simp only [isHighSurrogate, isLowSurrogate, Bool.or_eq_true, Bool.and_eq_true,
      decide_eq_true_eq] at hidden
    omega
  · simp only [isHighSurrogate, isLowSurrogate, Bool.or_eq_true, Bool.and_eq_true,
      decide_eq_true_eq] at hidden
    have same : (Char.ofNat point).toNat = point := by
      apply toNat_ofNat
      rw [Nat.isValidChar]
      omega
    rw [List.singleton_append, readString?_cons, same]
    · rwa [same]
    · rwa [same]
    · omega

theorem readString?_flatMap_writePoint (points : List Nat) (rest : List Char)
    (valid : ∀ point ∈ points, point < 0x110000) :
    readString? (points.flatMap writePoint ++ '"' :: rest) = some (points, rest) := by
  induction points with
  | nil => rfl
  | cons point points hypothesis =>
      have later := hypothesis fun other among => valid other (List.mem_cons_of_mem _ among)
      rw [List.flatMap_cons, List.append_assoc, readString?_writePoint (valid _ List.mem_cons_self),
        later]
      rfl

/-! ## Numbers -/

/-- What follows cannot belong to a number. -/
def EndsNumber (rest : List Char) : Prop :=
  ∀ character ∈ rest.head?, character.isDigit = false ∧ character ∉ ['.', 'e', 'E']

theorem spanDigits_append {digits : List Char} (all : ∀ digit ∈ digits, digit.isDigit)
    (ends : EndsNumber rest) : spanDigits (digits ++ rest) = (digits, rest) := by
  have stops : rest.takeWhile Char.isDigit = [] ∧ rest.dropWhile Char.isDigit = rest := by
    cases rest with
    | nil => exact ⟨rfl, rfl⟩
    | cons character rest =>
        have other : ¬character.isDigit := by
          rw [(ends character rfl).1]
          decide
        exact ⟨List.takeWhile_cons_of_neg other, List.dropWhile_cons_of_neg other⟩
  rw [spanDigits, List.takeWhile_append_of_pos all, List.dropWhile_append_of_pos all, stops.1,
    stops.2, List.append_nil]

theorem readFraction_of_endsNumber (ends : EndsNumber rest) : readFraction rest = ([], rest) := by
  simp only [readFraction]
  split
  · have point := (ends '.' rfl).2
    simp at point
  · rfl

theorem readExponent_of_endsNumber (ends : EndsNumber rest) : readExponent rest = ([], rest) := by
  simp only [readExponent]
  split
  · rfl
  · rename_i mark rest
    have other := (ends mark rfl).2
    rw [if_neg]
    simp only [List.mem_cons, not_or] at other
    simp [other]

theorem isDigit_of_mem_toDigits {number : Nat} {character : Char}
    (among : character ∈ Nat.toDigits 10 number) : character.isDigit :=
  Nat.isDigit_of_mem_toDigits (by decide) (by decide) among

/-- A digit stands in front, and a zero only if the number is zero. -/
theorem toDigits_eq_cons (number : Nat) : ∃ first digits,
    Nat.toDigits 10 number = first :: digits ∧ first.isDigit ∧ (first = '0' → number = 0) := by
  rcases List.exists_cons_of_ne_nil (Nat.toDigits_ne_nil (n := number) (b := 10)) with
    ⟨first, digits, written⟩
  refine ⟨first, digits, written, ?_, ?_⟩
  · have among : first ∈ Nat.toDigits 10 number := by
      rw [written]
      exact List.mem_cons_self
    exact isDigit_of_mem_toDigits among
  · rintro rfl
    by_contra positive
    have front : (Numeral.digits 10 number).head? = some 0 := by
      rw [Numeral.digits, Numeral.write, written]
      rfl
    exact Numeral.head?_digits_ne_zero (by decide) (by decide) (by omega) front

theorem readWhole?_toDigits (number : Nat) (ends : EndsNumber rest) :
    readWhole? (Nat.toDigits 10 number ++ rest) = some (Nat.toDigits 10 number, rest) := by
  rcases toDigits_eq_cons number with ⟨first, digits, written, -, zero⟩
  by_cases front : first = '0'
  · rw [zero front]
    rfl
  · have span : spanDigits (Nat.toDigits 10 number ++ rest) = (Nat.toDigits 10 number, rest) :=
      spanDigits_append (fun _ => isDigit_of_mem_toDigits) ends
    simp only [readWhole?]
    split
    · rename_i tail text
      rw [written] at text
      cases text
      exact absurd rfl front
    · rw [span, if_neg Nat.toDigits_ne_nil]

/-- A natural number is read where nothing follows that could belong to it. -/
theorem readNumber?_toDigits (number : Nat) (ends : EndsNumber rest) :
    readNumber? (Nat.toDigits 10 number ++ rest) = some (Nat.toDigits 10 number, rest) := by
  have unsigned : readUnsigned? (Nat.toDigits 10 number ++ rest) =
      some (Nat.toDigits 10 number, rest) := by
    simp only [readUnsigned?, readWhole?_toDigits number ends, readFraction_of_endsNumber ends,
      readExponent_of_endsNumber ends, List.append_nil]
  rcases toDigits_eq_cons number with ⟨first, digits, written, digit, -⟩
  simp only [readNumber?]
  split
  · rename_i tail text
    rw [written] at text
    cases text
    cases digit
  · exact unsigned

/-! ## Tokens -/

/-- A string of code points, a natural number, or any token that is neither string nor number. -/
def Token.IsPlain : Token → Prop
  | string points => ∀ point ∈ points, point < 0x110000
  | number literal => ∃ number, literal = Nat.toDigits 10 number
  | _ => True

def Token.IsNumber : Token → Prop
  | number _ => True
  | _ => False

theorem nextToken?_of_isDigit {first : Char} (digit : first.isDigit) (text : List Char) :
    nextToken? first text = (readNumber? (first :: text)).map (Prod.map .number id) := by
  simp only [nextToken?]
  split <;> first | rfl | cases digit

theorem isBlank_of_isDigit {character : Char} (digit : character.isDigit) :
    isBlank character = false := by
  by_contra blank
  simp only [isBlank, Bool.not_eq_false, Bool.or_eq_true, decide_eq_true_eq] at blank
  rcases blank with ((rfl | rfl) | rfl) | rfl <;> cases digit

/-- A plain token is read from the way it is written, whatever follows unless it is a number. -/
theorem nextToken?_write {token : Token} (plain : token.IsPlain)
    (ends : token.IsNumber → EndsNumber rest) : ∃ first text, token.write = first :: text ∧
      isBlank first = false ∧ nextToken? first (text ++ rest) = some (token, rest) := by
  cases token with
  | string points =>
      refine ⟨'"', points.flatMap writePoint ++ ['"'], rfl, rfl, ?_⟩
      have quoted : nextToken? '"' (points.flatMap writePoint ++ '"' :: rest) =
          (readString? (points.flatMap writePoint ++ '"' :: rest)).map (Prod.map .string id) := rfl
      rw [List.append_assoc, List.singleton_append, quoted,
        readString?_flatMap_writePoint points rest plain]
      rfl
  | number literal =>
      rcases plain with ⟨number, rfl⟩
      rcases toDigits_eq_cons number with ⟨first, digits, written, digit, -⟩
      refine ⟨first, digits, written, isBlank_of_isDigit digit, ?_⟩
      rw [nextToken?_of_isDigit digit, ← List.cons_append, ← written,
        readNumber?_toDigits number (ends trivial)]
      rfl
  | bool value => cases value <;> exact ⟨_, _, rfl, rfl, rfl⟩
  | openArray => exact ⟨_, _, rfl, rfl, rfl⟩
  | closeArray => exact ⟨_, _, rfl, rfl, rfl⟩
  | openObject => exact ⟨_, _, rfl, rfl, rfl⟩
  | closeObject => exact ⟨_, _, rfl, rfl, rfl⟩
  | comma => exact ⟨_, _, rfl, rfl, rfl⟩
  | colon => exact ⟨_, _, rfl, rfl, rfl⟩
  | null => exact ⟨_, _, rfl, rfl, rfl⟩

theorem tokens?_write {token : Token} (plain : token.IsPlain)
    (ends : token.IsNumber → EndsNumber rest) :
    tokens? (token.write ++ rest) = (tokens? rest).map (token :: ·) := by
  rcases nextToken?_write plain ends with ⟨first, text, written, dark, found⟩
  have trimmed : (token.write ++ rest).dropWhile isBlank = first :: (text ++ rest) := by
    rw [written, List.cons_append, List.dropWhile_cons_of_neg (by simp [dark])]
  rw [tokens?]
  split
  · rename_i none
    cases none.symm.trans trimmed
  · rename_i front after text
    cases text.symm.trans trimmed
    split
    · rename_i none
      cases none.symm.trans found
    · rename_i other
      cases other.symm.trans found
      rfl

/-! ## Rows of tokens -/

/-- Tokens that are read from the way they are written, before whatever cannot belong to a number. -/
def ReadBack (row : List Token) : Prop := ∀ rest, EndsNumber rest →
  tokens? (row.flatMap Token.write ++ rest) = (tokens? rest).map (row ++ ·)

theorem endsNumber_write {token : Token} (other : ¬token.IsNumber) (rest : List Char) :
    EndsNumber (token.write ++ rest) := by
  intro character first
  cases token with
  | number literal => exact absurd trivial other
  | bool value => cases value <;> cases first <;> decide
  | string points => cases first; decide
  | openArray => cases first; decide
  | closeArray => cases first; decide
  | openObject => cases first; decide
  | closeObject => cases first; decide
  | comma => cases first; decide
  | colon => cases first; decide
  | null => cases first; decide

theorem readBack_nil : ReadBack [] := by
  intro rest ends
  simp

theorem readBack_singleton {token : Token} (plain : token.IsPlain) : ReadBack [token] := by
  intro rest ends
  rw [List.flatMap_singleton, tokens?_write plain fun _ => ends]
  rfl

/-- Between two rows any token but a number keeps them apart. -/
theorem ReadBack.append_cons {first second : List Token} {token : Token} (front : ReadBack first)
    (plain : token.IsPlain) (other : ¬token.IsNumber) (back : ReadBack second) :
    ReadBack (first ++ token :: second) := by
  intro rest ends
  have later : tokens? (token.write ++ (second.flatMap Token.write ++ rest)) = _ :=
    tokens?_write plain fun number => absurd number other
  rw [List.flatMap_append, List.flatMap_cons, List.append_assoc, List.append_assoc,
    front _ (endsNumber_write other _), later, back rest ends, Option.map_map, Option.map_map]
  simp only [Function.comp_def, List.append_assoc, List.cons_append]

theorem tokens?_of_readBack {row : List Token} (readBack : ReadBack row) :
    tokens? (row.flatMap Token.write) = some row := by
  have read := readBack [] fun _ none => by cases none
  have empty : tokens? [] = some [] := by
    rw [tokens?]
    rfl
  rwa [empty, List.append_nil, Option.map_some, List.append_nil] at read

end TunnelServer.Json
