import TunnelServer.Bytes.BigEndian

/-!
# Time stamps

A packet carries the sender's wall-clock time in whole seconds since 1970, in a signed field of 32
bits.  Later times wrap around, and two stamps are compared by their distance over the integers.
-/

namespace TunnelServer

/-- Seconds since 1970, in the signed 32-bit field of a packet. -/
abbrev Epoch := Int32

namespace Epoch

/-- Nanoseconds in a second. -/
def nanosPerSecond : Nat := 1000000000

/-- The stamp of an instant given in nanoseconds since 1970; earlier instants have stamp 0. -/
def ofWallTime (nanos : Int) : Epoch :=
  if nanos < 0 then 0 else Int32.ofNat (nanos.toNat / nanosPerSecond)

/-- The four octets of a stamp. -/
def octets (epoch : Epoch) : Bytes := BigEndian.encode 4 epoch.toUInt32.toNat

/-- The stamp that a field of four octets holds. -/
def ofOctets (field : Bytes) : Epoch := (UInt32.ofNat (BigEndian.decode field)).toInt32

@[simp]
theorem length_octets (epoch : Epoch) : epoch.octets.length = 4 := by simp [octets]

/-- A written stamp is read back. -/
theorem ofOctets_octets (epoch : Epoch) : ofOctets epoch.octets = epoch := by
  have bound : epoch.toUInt32.toNat < BigEndian.capacity 4 := epoch.toUInt32.toNat_lt
  rw [ofOctets, octets, BigEndian.decode_encode, Nat.mod_eq_of_lt bound, UInt32.ofNat_toNat]
  rfl

/-- Every field of four octets is the written form of the stamp it holds. -/
theorem octets_ofOctets {field : Bytes} (four : field.length = 4) :
    (ofOctets field).octets = field := by
  have bound := BigEndian.decode_lt field
  rw [four] at bound
  have stored : (ofOctets field).toUInt32.toNat = BigEndian.decode field := by
    simp only [ofOctets]
    rw [show (UInt32.ofNat (BigEndian.decode field)).toInt32.toUInt32 =
      UInt32.ofNat (BigEndian.decode field) from rfl, UInt32.toNat_ofNat']
    exact Nat.mod_eq_of_lt bound
  rw [octets, stored, ← four, BigEndian.encode_decode]

end Epoch

end TunnelServer
