/-!
# Counters

What has become of the packets and datagrams that a server has seen.
-/

namespace TunnelServer

/-- Packet and datagram counts since the server was started. -/
structure Counters where
  /-- Packets that came from the network. -/
  received : Nat := 0
  /-- Packets whose header was not in order. -/
  precheckDrops : Nat := 0
  /-- Packets of tunnels that are not mapped. -/
  unknownTunnelDrops : Nat := 0
  /-- Payloads written to the local network. -/
  delivered : Nat := 0
  /-- Local reads that are no row of datagrams. -/
  framingErrors : Nat := 0
  /-- Local datagrams for no connected tunnel. -/
  noRouteDrops : Nat := 0
  /-- Local datagrams for no connected tunnel that were passed on elsewhere. -/
  passedUnhandled : Nat := 0
  /-- Packets sent to peers, heartbeats included. -/
  sent : Nat := 0
  heartbeats : Nat := 0
  sendErrors : Nat := 0
  sinkErrors : Nat := 0
  /-- Calls refused because a channel was, or was not, connected. -/
  stateErrors : Nat := 0
  /-- Calls refused for what was handed in. -/
  rejected : Nat := 0
  /-- Peers that a heartbeat pass found gone. -/
  timeouts : Nat := 0
  deriving DecidableEq

end TunnelServer
