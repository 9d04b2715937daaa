/-!
# Numbers inside addresses

A number in an address ends at the first character that is no digit.  What may be written differs
by place (an octet of IPv4, a group of IPv6, a port), so a reader is given a form.
-/

namespace TunnelServer.Numeral

/-- The value of an ASCII digit or letter in a base of at most 36; letters of both cases count. -/
def digitValue? (base : Nat) (character : Char) : Option Nat :=
  let code := character.toNat
  let value :=
    if 0x30 ≤ code ∧ code ≤ 0x39 then code - 0x30
    else if 0x61 ≤ code ∧ code ≤ 0x7a then code - 0x61 + 10
    else if 0x41 ≤ code ∧ code ≤ 0x5a then code - 0x41 + 10
    else base
  if value < base then some value else none

/-- The digits at the start of a text, and what follows them. -/
def span (base : Nat) : List Char → List Nat × List Char
  | [] => ([], [])
  | character :: rest =>
    match digitValue? base character with
    | none => ([], character :: rest)
    | some digit => (digit :: (span base rest).1, (span base rest).2)

/-- The number that digits stand for, most significant first. -/
def value (base : Nat) (digits : List Nat) : Nat :=
  digits.foldl (fun total digit => total * base + digit) 0

/-- The digits of a number without leading zeros; digits above nine are small letters. -/
def write (base number : Nat) : List Char := Nat.toDigits base number

/-- How a number may be written in one place of an address. -/
structure Form where
  base : Nat
  /-- The largest number admitted. -/
  limit : Nat
  /-- The most digits admitted, leading zeros included. -/
  maxDigits : Option Nat := none
  /-- Whether a number of several digits may start with a zero. -/
  leadingZeros : Bool := true

/-- The number at the start of a text and what follows its digits. -/
def Form.read? (form : Form) (text : List Char) : Option (Nat × List Char) :=
  let (digits, rest) := span form.base text
  let number := value form.base digits
  let tooLong := form.maxDigits.any (· < digits.length)
  let badZero := !form.leadingZeros && 1 < digits.length && digits.head? == some 0
  if digits.isEmpty || tooLong || badZero || form.limit < number then none
  else some (number, rest)

/-- Steps over the mark that stands before every number of a row but the first. -/
def skipMark? (mark : Char) (first : Bool) (text : List Char) : Option (List Char) :=
  if first then some text
  else
    match text with
    | [] => none
    | character :: rest => if character = mark then some rest else none

end TunnelServer.Numeral
