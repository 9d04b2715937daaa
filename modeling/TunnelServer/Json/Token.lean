import TunnelServer.Json.Value
import TunnelServer.Text.Numeral

/-!
# JSON tokens

The words of JSON text.  Written, they follow each other without blanks; a string escapes quotes,
backslashes, controls and lone surrogates and nothing else.  Read, blanks may stand between them.
-/

namespace TunnelServer.Json

inductive Token where
  | openArray | closeArray | openObject | closeObject | comma | colon | null
  | bool (value : Bool)
  | number (literal : List Char)
  | string (points : List Nat)

/-! ## Writing -/

/-- A code point as an escape of four hexadecimal digits. -/
def numericEscape (point : Nat) : List Char :=
  let digits := Nat.toDigits 16 point
  ['\\', 'u'] ++ List.replicate (4 - digits.length) '0' ++ digits

/-- How a code point stands in a string. -/
def writePoint (point : Nat) : List Char :=
  if point = 0x22 then ['\\', '"']
  else if point = 0x5c then ['\\', '\\']
  else if point = 0x08 then ['\\', 'b']
  else if point = 0x09 then ['\\', 't']
  else if point = 0x0a then ['\\', 'n']
  else if point = 0x0c then ['\\', 'f']
  else if point = 0x0d then ['\\', 'r']
  else if point < 0x20 || isHighSurrogate point || isLowSurrogate point then numericEscape point
  else [Char.ofNat point]

def Token.write : Token → List Char
  | openArray => ['[']
  | closeArray => [']']
  | openObject => ['\x7b']
  | closeObject => ['\x7d']
  | comma => [',']
  | colon => [':']
  | null => "null".toList
  | bool true => "true".toList
  | bool false => "false".toList
  | number literal => literal
  | string points => '"' :: points.flatMap writePoint ++ ['"']

/-! ## Reading -/

/-- The characters that may stand between tokens. -/
def isBlank (character : Char) : Bool :=
  character = ' ' || character = '\t' || character = '\n' || character = '\r'

/-- The code point of a one-letter escape. -/
def shortEscape? : Char → Option Nat
  | '"' => some 0x22
  | '\\' => some 0x5c
  | '/' => some 0x2f
  | 'b' => some 0x08
  | 'f' => some 0x0c
  | 'n' => some 0x0a
  | 'r' => some 0x0d
  | 't' => some 0x09
  | _ => none

/-- The number of four hexadecimal digits. -/
def fourHex? (first second third fourth : Char) : Option Nat := do
  let first ← Numeral.digitValue? 16 first
  let second ← Numeral.digitValue? 16 second
  let third ← Numeral.digitValue? 16 third
  let fourth ← Numeral.digitValue? 16 fourth
  return ((first * 16 + second) * 16 + third) * 16 + fourth

/-- Reads the rest of a string after its opening quote.  A control character must be escaped. -/
def readString? : List Char → Option (List Nat × List Char)
  | [] => none
  | '"' :: rest => some ([], rest)
  | '\\' :: 'u' :: first :: second :: third :: fourth :: rest =>
    match fourHex? first second third fourth with
    | none => none
    | some point => (readString? rest).map (Prod.map (point :: ·) id)
  | '\\' :: letter :: rest =>
    match shortEscape? letter with
    | none => none
    | some point => (readString? rest).map (Prod.map (point :: ·) id)
  | ['\\'] => none
  | character :: rest =>
    if character.toNat < 0x20 then none
    else (readString? rest).map (Prod.map (character.toNat :: ·) id)

/-- The digits at the start of a text, and the rest. -/
def spanDigits (text : List Char) : List Char × List Char :=
  (text.takeWhile Char.isDigit, text.dropWhile Char.isDigit)

/-- The integer part of a number: one zero, or digits that start with another. -/
def readWhole? (text : List Char) : Option (List Char × List Char) :=
  match text with
  | '0' :: rest => some (['0'], rest)
  | _ =>
    let digits := spanDigits text
    if digits.1 = [] then none else some digits

/-- The fraction of a number, if one follows. -/
def readFraction (text : List Char) : List Char × List Char :=
  match text with
  | '.' :: rest =>
    let digits := spanDigits rest
    if digits.1 = [] then ([], text) else ('.' :: digits.1, digits.2)
  | _ => ([], text)

/-- A minus sign or a plus sign, if one follows. -/
def readSign (text : List Char) : List Char × List Char :=
  match text with
  | '+' :: rest => (['+'], rest)
  | '-' :: rest => (['-'], rest)
  | _ => ([], text)

/-- The exponent of a number, if one follows. -/
def readExponent (text : List Char) : List Char × List Char :=
  match text with
  | [] => ([], text)
  | mark :: rest =>
    if mark = 'e' || mark = 'E' then
      let sign := readSign rest
      let digits := spanDigits sign.2
      if digits.1 = [] then ([], text) else (mark :: sign.1 ++ digits.1, digits.2)
    else ([], text)

/-- A number without its sign at the start of a text. -/
def readUnsigned? (text : List Char) : Option (List Char × List Char) :=
  match readWhole? text with
  | none => none
  | some (whole, rest) =>
    let fraction := readFraction rest
    let exponent := readExponent fraction.2
    some (whole ++ fraction.1 ++ exponent.1, exponent.2)

/-- The number at the start of a text; only a minus sign may stand before it. -/
def readNumber? (text : List Char) : Option (List Char × List Char) :=
  match text with
  | '-' :: rest => (readUnsigned? rest).map (Prod.map ('-' :: ·) id)
  | _ => readUnsigned? text

/-- The rest of a text that starts with a word. -/
def afterWord? : (word text : List Char) → Option (List Char)
  | [], text => some text
  | _ :: _, [] => none
  | letter :: word, character :: text =>
    if letter = character then afterWord? word text else none

/-- The token at the start of a text, given its first character. -/
def nextToken? (first : Char) (rest : List Char) : Option (Token × List Char) :=
  match first with
  | '[' => some (.openArray, rest)
  | ']' => some (.closeArray, rest)
  | '\x7b' => some (.openObject, rest)
  | '\x7d' => some (.closeObject, rest)
  | ',' => some (.comma, rest)
  | ':' => some (.colon, rest)
  | '"' => (readString? rest).map (Prod.map .string id)
  | 'n' => (afterWord? "ull".toList rest).map (Prod.mk .null)
  | 't' => (afterWord? "rue".toList rest).map (Prod.mk (.bool true))
  | 'f' => (afterWord? "alse".toList rest).map (Prod.mk (.bool false))
  | _ => (readNumber? (first :: rest)).map (Prod.map .number id)

/-! ## What a token leaves -/

theorem length_of_readString? {text rest : List Char} {points : List Nat}
    (read : readString? text = some (points, rest)) : rest.length < text.length := by
  fun_induction readString? text generalizing points rest with
  | case1 => simp at read
  | case2 => simp_all
  | case3 => simp at read
  | case4 first second third fourth after point _ hypothesis =>
    obtain ⟨⟨others, left⟩, inner, same⟩ := Option.map_eq_some_iff.mp read
    cases same
    have shorter := hypothesis inner
    simp only [List.length_cons, id]
    omega
  | case5 => simp at read
  | case6 letter after _ point _ hypothesis =>
    obtain ⟨⟨others, left⟩, inner, same⟩ := Option.map_eq_some_iff.mp read
    cases same
    have shorter := hypothesis inner
    simp only [List.length_cons, id]
    omega
  | case7 => simp at read
  | case8 => simp at read
  | case9 character after _ _ _ _ _ hypothesis =>
    obtain ⟨⟨others, left⟩, inner, same⟩ := Option.map_eq_some_iff.mp read
    cases same
    have shorter := hypothesis inner
    simp only [List.length_cons, id]
    omega

theorem length_of_afterWord? {word text rest : List Char} (read : afterWord? word text = some rest) :
    rest.length ≤ text.length := by
  fun_induction afterWord? word text with
  | case1 => simp_all
  | case2 => simp at read
  | case3 word text letter hypothesis =>
    have shorter := hypothesis read
    simp only [List.length_cons]
    omega
  | case4 => simp at read

theorem length_spanDigits (text : List Char) :
    (spanDigits text).1.length + (spanDigits text).2.length = text.length := by
  rw [spanDigits, ← List.length_append, List.takeWhile_append_dropWhile]

theorem length_of_readWhole? {text whole rest : List Char}
    (read : readWhole? text = some (whole, rest)) : rest.length < text.length := by
  simp only [readWhole?] at read
  split at read
  · simp_all
  · have total := length_spanDigits text
    split at read
    · simp at read
    · rename_i digits
      have positive := List.length_pos_iff.mpr digits
      rw [Option.some.injEq] at read
      rw [read] at total positive
      dsimp only at total positive
      omega

theorem length_readFraction (text : List Char) :
    (readFraction text).2.length ≤ text.length := by
  simp only [readFraction]
  split
  · rename_i rest
    have total := length_spanDigits rest
    split
    · exact Nat.le_refl _
    · simp only [List.length_cons]
      omega
  · exact Nat.le_refl _

theorem length_readSign (text : List Char) : (readSign text).2.length ≤ text.length := by
  simp only [readSign]
  split <;> simp

theorem length_readExponent (text : List Char) :
    (readExponent text).2.length ≤ text.length := by
  simp only [readExponent]
  split
  · exact Nat.le_refl _
  · rename_i mark rest
    have sign := length_readSign rest
    have total := length_spanDigits (readSign rest).2
    split
    · split
      · exact Nat.le_refl _
      · simp only [List.length_cons]
        omega
    · exact Nat.le_refl _

theorem length_of_readUnsigned? {text literal rest : List Char}
    (read : readUnsigned? text = some (literal, rest)) : rest.length < text.length := by
  simp only [readUnsigned?] at read
  split at read
  · simp at read
  · rename_i whole afterWhole found
    have shorter := length_of_readWhole? found
    have fraction := length_readFraction afterWhole
    have exponent := length_readExponent (readFraction afterWhole).2
    cases read
    omega

theorem length_of_readNumber? {text literal rest : List Char}
    (read : readNumber? text = some (literal, rest)) : rest.length < text.length := by
  simp only [readNumber?] at read
  split at read
  · obtain ⟨⟨digits, left⟩, inner, same⟩ := Option.map_eq_some_iff.mp read
    cases same
    have shorter := length_of_readUnsigned? inner
    simp only [List.length_cons, id]
    omega
  · exact length_of_readUnsigned? read

/-- A token takes at least its first character. -/
theorem length_of_nextToken? {first : Char} {text rest : List Char} {token : Token}
    (read : nextToken? first text = some (token, rest)) : rest.length ≤ text.length := by
  simp only [nextToken?] at read
  split at read
  any_goals
    cases read
    exact Nat.le_refl _
  · obtain ⟨⟨points, left⟩, inner, same⟩ := Option.map_eq_some_iff.mp read
    cases same
    exact Nat.le_of_lt (length_of_readString? inner)
  · obtain ⟨left, inner, same⟩ := Option.map_eq_some_iff.mp read
    cases same
    exact length_of_afterWord? inner
  · obtain ⟨left, inner, same⟩ := Option.map_eq_some_iff.mp read
    cases same
    exact length_of_afterWord? inner
  · obtain ⟨left, inner, same⟩ := Option.map_eq_some_iff.mp read
    cases same
    exact length_of_afterWord? inner
  · obtain ⟨⟨literal, left⟩, inner, same⟩ := Option.map_eq_some_iff.mp read
    cases same
    have shorter := length_of_readNumber? inner
    simp only [List.length_cons, id] at shorter ⊢
    omega

def tokens? (text : List Char) : Option (List Token) :=
  match trimmed : text.dropWhile isBlank with
  | [] => some []
  | first :: rest =>
    match found : nextToken? first rest with
    | none => none
    | some (token, after) =>
      have : after.length < text.length := by
        have bound := length_of_nextToken? found
        have suffix := (List.dropWhile_suffix (l := text) isBlank).length_le
        rw [trimmed, List.length_cons] at suffix
        omega
      (tokens? after).map (token :: ·)
termination_by text.length

end TunnelServer.Json
