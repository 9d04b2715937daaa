/-!
# Bytes and nibbles

Packets, datagrams and streams are lists of octets.  Lists are used because every layout here is a
concatenation of fields, and a proof takes a concatenation apart field by field.
-/

namespace TunnelServer

/-- A string of octets. -/
abbrev Bytes := List UInt8

namespace Nibble

/-- Two four-bit values in one octet, the high one first; bits above the low four are ignored. -/
def pack (high low : UInt8) : UInt8 :=
  (high &&& 0x0f) <<< 4 ||| (low &&& 0x0f)

/-- The upper four bits of an octet. -/
def high (octet : UInt8) : UInt8 := octet >>> 4

/-- The lower four bits of an octet. -/
def low (octet : UInt8) : UInt8 := octet &&& 0x0f

end Nibble

end TunnelServer
