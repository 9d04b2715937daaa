import TunnelServer.Text.Unprintable

/-!
# Quoted text

Diagnostics put a text between double quotes.  Quotes, backslashes and a few controls are written
with a backslash, and every other character without a shape of its own by its number.
-/

namespace TunnelServer.Text

/-- How one character stands inside quotes. -/
def quoteCharacter (character : Char) : List Char :=
  match character with
  | '\x00' => ['\\', '0']
  | '\t' => ['\\', 't']
  | '\r' => ['\\', 'r']
  | '\n' => ['\\', 'n']
  | '"' => ['\\', '"']
  | '\\' => ['\\', '\\']
  | _ =>
    if isUnprintable character then
      ['\\', 'u', '\x7b'] ++ Nat.toDigits 16 character.toNat ++ ['\x7d']
    else [character]

/-- A text between double quotes. -/
def quoted (text : String) : String :=
  String.ofList ('"' :: text.toList.flatMap quoteCharacter ++ ['"'])

end TunnelServer.Text
