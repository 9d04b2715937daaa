import TunnelServer.Address.Ipv6

/-!
# The text of an IPv6 address

Written, an address has one form: small hexadecimal groups without leading zeros, the first longest
run of at least two zero groups as `::`, and a mapped IPv4 address in dotted form.  Read, groups may
have up to four digits of either case, one `::` stands for one or more zero groups wherever it is,
and the last two groups may be dotted.
-/

namespace TunnelServer.Ipv6Address

/-! ## Writing -/

/-- Groups between colons. -/
def writeGroups (groups : List UInt16) : List Char :=
  [':'].intercalate (groups.map fun group => Numeral.write 16 group.toNat)

/-- How many zero groups stand at the start. -/
def leadingZeros (groups : List UInt16) : Nat := (groups.takeWhile (· = 0)).length

/-- Where the first longest run of zero groups starts, and its length. -/
def longestZeroRun (groups : List UInt16) : Nat × Nat :=
  (List.range groups.length).foldl
    (fun best start =>
      let length := leadingZeros (groups.drop start)
      if best.2 < length then (start, length) else best)
    (0, 0)

/-- The written form of an address. -/
def write (address : Ipv6Address) : List Char :=
  match address.mappedIpv4? with
  | some inner => "::ffff:".toList ++ inner.write
  | none =>
    let (start, length) := longestZeroRun address.groups
    if 1 < length then
      writeGroups (address.groups.take start) ++ "::".toList ++
        writeGroups (address.groups.drop (start + length))
    else writeGroups address.groups

/-- The text of an address. -/
def toText (address : Ipv6Address) : String := String.ofList address.write

/-- How diagnostics show an identity. -/
def describe (identity : Identity) : String := "Identity(" ++ identity.toText ++ ")"

/-! ## Reading -/

/-- How one group is written. -/
def groupForm : Numeral.Form where
  base := 16
  limit := 0xffff
  maxDigits := some 4

/-- Groups read from a text, whether the last two were dotted, and what follows. -/
structure GroupRow where
  groups : List UInt16
  dotted : Bool
  rest : List Char

/-- Reads at most `room` groups, and stops before what is no group.  Where two groups have room a
dotted IPv4 address may stand for them, and it ends the row. -/
def readGroups : (room : Nat) → (first : Bool) → List Char → GroupRow
  | 0, _, text => ⟨[], false, text⟩
  | room + 1, first, text =>
    let dotted := if 0 < room then Numeral.skipMark? ':' first text >>= Ipv4Address.readFront? else none
    match dotted with
    | some (inner, rest) => ⟨groupsOf inner.octets, true, rest⟩
    | none =>
      match Numeral.skipMark? ':' first text >>= groupForm.read? with
      | none => ⟨[], false, text⟩
      | some (group, rest) =>
        let row := readGroups room false rest
        ⟨UInt16.ofNat group :: row.groups, row.dotted, row.rest⟩

/-- The groups at the start of a text and what follows them. -/
def readFrontGroups? (text : List Char) : Option (List UInt16 × List Char) :=
  let front := readGroups 8 true text
  if front.groups.length = 8 then some (front.groups, front.rest)
  else if front.dotted then none
  else
    match front.rest with
    | ':' :: ':' :: rest =>
      let back := readGroups (7 - front.groups.length) true rest
      let zeros := 8 - front.groups.length - back.groups.length
      some (front.groups ++ List.replicate zeros 0 ++ back.groups, back.rest)
    | _ => none

/-- The address at the start of a text and what follows it. -/
def readFront? (text : List Char) : Option (Ipv6Address × List Char) :=
  match readFrontGroups? text with
  | none => none
  | some (groups, rest) =>
    if eight : groups.length = 8 then some (ofGroups groups eight, rest) else none

/-- Reads a text that holds an address and nothing else. -/
def read? (text : List Char) : Option Ipv6Address :=
  match readFront? text with
  | some (address, []) => some address
  | _ => none

/-- The address that a text names. -/
def ofText? (text : String) : Option Ipv6Address := read? text.toList

end TunnelServer.Ipv6Address
