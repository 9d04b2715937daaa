/-!
# JSON values

A value as its text spells it.  Numbers keep their spelling, and strings are code points rather than
characters, because an escape may name half of a surrogate pair: such a string is well-formed but
stands for no text.
-/

namespace TunnelServer.Json

/-- A JSON value. -/
inductive Value where
  | null
  | bool (value : Bool)
  | number (literal : List Char)
  | string (points : List Nat)
  | array (items : List Value)
  | object (members : List (List Nat × Value))

/-- Whether a code point is the first half of a surrogate pair. -/
def isHighSurrogate (point : Nat) : Bool := 0xd800 ≤ point && point < 0xdc00

/-- Whether a code point is the second half of a surrogate pair. -/
def isLowSurrogate (point : Nat) : Bool := 0xdc00 ≤ point && point < 0xe000

/-- The characters that code points stand for, if no surrogate is left alone. -/
def charactersOf? : List Nat → Option (List Char)
  | [] => some []
  | point :: rest =>
    if isHighSurrogate point then
      match rest with
      | [] => none
      | second :: rest =>
        if isLowSurrogate second then
          let character := Char.ofNat (0x10000 + (point - 0xd800) * 0x400 + (second - 0xdc00))
          (charactersOf? rest).map (character :: ·)
        else none
    else if isLowSurrogate point then none
    else (charactersOf? rest).map (Char.ofNat point :: ·)

/-- The code points of a text. -/
def pointsOf (text : String) : List Nat := text.toList.map Char.toNat

namespace Value

/-- The string value of a text. -/
def ofText (text : String) : Value := string (pointsOf text)

/-- The number value of a natural number. -/
def ofNatural (number : Nat) : Value := Value.number (Nat.toDigits 10 number)

/-- The text of a string value. -/
def text? : Value → Option String
  | string points => (charactersOf? points).map String.ofList
  | _ => none

/-- The number of a number value that is spelled with digits alone. -/
def natural? : Value → Option Nat
  | number literal =>
    if literal.all Char.isDigit then
      some (literal.foldl (fun total digit => total * 10 + (digit.toNat - 0x30)) 0)
    else none
  | _ => none

end Value

end TunnelServer.Json
