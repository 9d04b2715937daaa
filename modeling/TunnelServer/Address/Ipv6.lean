import TunnelServer.Address.Ipv4

/-!
# IPv6 addresses

Sixteen octets, or eight groups of sixteen bits.  A tunnel is identified by the IPv6 address of its
far end, so the address in a packet header, the destination of a datagram and the key of the
registry are values of one type.
-/

namespace TunnelServer

/-- An IPv6 address. -/
structure Ipv6Address where
  octets : Bytes
  length_octets : octets.length = 16 := by rfl
  deriving DecidableEq

/-- The address that names a tunnel. -/
abbrev Identity := Ipv6Address

namespace Ipv6Address

/-- The address `::`. -/
def unspecified : Ipv6Address := { octets := [0, 0, 0, 0, 0, 0, 0, 0, 0, 0, 0, 0, 0, 0, 0, 0] }

/-- The address in the first sixteen octets. -/
def ofBytes? (bytes : Bytes) : Option Ipv6Address :=
  if enough : 16 ≤ bytes.length then some ⟨bytes.take 16, by simp [enough]⟩ else none

/-- Addresses are ordered octet by octet, as the numbers that they are. -/
def le (left right : Ipv6Address) : Bool :=
  decide (BigEndian.decode left.octets ≤ BigEndian.decode right.octets)

/-- Octets taken two at a time, as groups. -/
def groupsOf : Bytes → List UInt16
  | high :: low :: rest => UInt16.ofNat (BigEndian.decode [high, low]) :: groupsOf rest
  | _ => []

/-- The octets of a row of groups. -/
def octetsOf (groups : List UInt16) : Bytes :=
  groups.flatMap fun group => BigEndian.encode 2 group.toNat

theorem length_octetsOf (groups : List UInt16) : (octetsOf groups).length = 2 * groups.length := by
  induction groups with
  | nil => rfl
  | cons group rest hypothesis =>
    simp only [octetsOf, List.flatMap_cons, List.length_append, BigEndian.length_encode,
      List.length_cons] at hypothesis ⊢
    omega

/-- The eight groups of an address. -/
def groups (address : Ipv6Address) : List UInt16 := groupsOf address.octets

/-- The address of eight groups. -/
def ofGroups (groups : List UInt16) (eight : groups.length = 8) : Ipv6Address :=
  ⟨octetsOf groups, by rw [length_octetsOf, eight]⟩

/-- The IPv4 address inside an address of the form `::ffff:a.b.c.d`. -/
def mappedIpv4? (address : Ipv6Address) : Option Ipv4Address :=
  if address.octets.take 12 = List.replicate 10 0 ++ [0xff, 0xff] then
    some ⟨address.octets.drop 12, by simp [address.length_octets]⟩
  else none

end Ipv6Address

end TunnelServer
