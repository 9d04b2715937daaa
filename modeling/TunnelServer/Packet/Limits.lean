import TunnelServer.Packet.Epoch

/-!
# Admission limits

How large a packet may be and how far its stamp may be from the local clock.
-/

namespace TunnelServer.Packet

/-- The limits that a packet is admitted under. -/
structure Limits where
  /-- The largest distance between the sender's stamp and the local one, in seconds. -/
  maxClockSkew : Nat
  /-- The largest packet, header included. -/
  maxBytes : Nat
  deriving DecidableEq

namespace Limits

/-- The distance in seconds at which two clocks are still taken to agree. -/
def standardClockSkew : Nat := 1000

/-- The limits of a running server; no larger packet fits a UDP datagram. -/
def standard : Limits := { maxClockSkew := standardClockSkew, maxBytes := 65535 }

/-- Limits with a small packet size, for trials. -/
def trial : Limits := { maxClockSkew := standardClockSkew, maxBytes := 4096 }

/-- Whether two stamps are close enough; the distance is taken over the integers and never wraps. -/
def acceptsSkew (limits : Limits) (sender here : Epoch) : Bool :=
  decide ((here.toInt - sender.toInt).natAbs ≤ limits.maxClockSkew)

end Limits

end TunnelServer.Packet
