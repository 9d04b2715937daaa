import TunnelServer.Address.Socket

/-!
# Settings

Where a server listens and how often its workers look around.
-/

namespace TunnelServer.Server

/-- The settings of a server; intervals are in milliseconds. -/
structure Settings where
  /-- The address that all tunnels are served at. -/
  bind : SocketAddress := .v4 Ipv4Address.unspecified 5072
  /-- The time between heartbeat passes. -/
  heartbeatTick : Nat := 1000
  /-- The longest wait for a packet. -/
  pollInterval : Nat := 500
  /-- The longest wait for a command before the workers are looked after. -/
  monitorInterval : Nat := 10000
  deriving DecidableEq

end TunnelServer.Server
