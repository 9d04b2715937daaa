import TunnelServer.Bytes.BigEndian
import TunnelServer.Text.Numeral

/-!
# IPv4 addresses

Four octets, written as decimal numbers without leading zeros between dots.
-/

namespace TunnelServer

/-- An IPv4 address. -/
structure Ipv4Address where
  octets : Bytes
  length_octets : octets.length = 4 := by rfl
  deriving DecidableEq

namespace Ipv4Address

/-- The address `0.0.0.0`. -/
def unspecified : Ipv4Address := { octets := [0, 0, 0, 0] }

/-- The address `127.0.0.1`, the host itself. -/
def loopback : Ipv4Address := { octets := [127, 0, 0, 1] }

/-- How one octet is written. -/
def octetForm : Numeral.Form where
  base := 10
  limit := 255
  maxDigits := some 3
  leadingZeros := false

/-- The written form of a row of octets. -/
def writeOctets (octets : Bytes) : List Char :=
  ['.'].intercalate (octets.map fun octet => Numeral.write 10 octet.toNat)

/-- The written form of an address. -/
def write (address : Ipv4Address) : List Char := writeOctets address.octets

/-- Reads `count` octets; each but the first of the address follows a dot. -/
def readOctets? : (count : Nat) → (first : Bool) → List Char → Option (Bytes × List Char)
  | 0, _, text => some ([], text)
  | count + 1, first, text =>
    match Numeral.skipMark? '.' first text >>= octetForm.read? with
    | none => none
    | some (octet, rest) =>
      match readOctets? count false rest with
      | none => none
      | some (octets, rest) => some (UInt8.ofNat octet :: octets, rest)

theorem length_of_readOctets? {count : Nat} {first : Bool} {text rest : List Char} {octets : Bytes}
    (read : readOctets? count first text = some (octets, rest)) : octets.length = count := by
  fun_induction readOctets? count first text generalizing octets rest with
  | case1 => simp_all
  | case2 => simp at read
  | case3 => simp at read
  | case4 count first text octet afterOctet one others afterOthers tail hypothesis =>
    obtain ⟨rfl, rfl⟩ := by simpa using read
    simp [hypothesis tail]

/-- The address at the start of a text and what follows it. -/
def readFront? (text : List Char) : Option (Ipv4Address × List Char) :=
  match read : readOctets? 4 true text with
  | none => none
  | some (octets, rest) => some (⟨octets, length_of_readOctets? read⟩, rest)

/-- Reads a text that holds an address and nothing else. -/
def read? (text : List Char) : Option Ipv4Address :=
  match readFront? text with
  | some (address, []) => some address
  | _ => none

/-- The text of an address. -/
def toText (address : Ipv4Address) : String := String.ofList address.write

/-- The address that a text names. -/
def ofText? (text : String) : Option Ipv4Address := read? text.toList

end Ipv4Address

end TunnelServer
