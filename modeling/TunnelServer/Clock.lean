import TunnelServer.Packet.Epoch

/-!
# The clock

Everything in a server goes by one clock, which counts nanoseconds since it was started.  Silence
and intervals are measured on that scale; packets are stamped with the wall-clock second that
belongs to it.
-/

namespace TunnelServer

/-- Nanoseconds since the clock was started. -/
abbrev Instant := Nat

/-- A clock: the stamp it started at and the time since. -/
structure Clock where
  startEpoch : Epoch
  now : Instant := 0

namespace Clock

/-- The stamp of the present moment; the field wraps around. -/
def epoch (clock : Clock) : Epoch :=
  clock.startEpoch + Int32.ofNat (clock.now / Epoch.nanosPerSecond)

/-- The clock some time later. -/
def advance (clock : Clock) (nanos : Nat) : Clock := { clock with now := clock.now + nanos }

end Clock

end TunnelServer
