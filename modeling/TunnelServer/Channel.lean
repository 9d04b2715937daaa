import TunnelServer.Address.Socket
import TunnelServer.Clock
import TunnelServer.Tunnel.Error

/-!
# Channels

A channel carries the traffic of one tunnel between the local network and one peer.  The registry
and the pumps know channels by the operations of the class below alone.  Every operation gives the
channel as it is afterwards, also where it refuses a call.
-/

namespace TunnelServer

/-- The name of a place on the local network that datagrams are written to. -/
abbrev Sink := String

/-- What a connected channel records: where its datagrams go and where its packets go. -/
structure Link where
  sink : Sink
  peer : SocketAddress
  deriving DecidableEq

/-- What is to be done about a packet. -/
inductive Action where
  | nothing
  /-- The payload goes to the sink that was recorded when the packet came. -/
  | deliver (payload : Bytes) (sink : Sink)
  deriving DecidableEq

namespace Action

def isDelivery : Action → Bool
  | nothing => false
  | deliver _ _ => true

def describe : Action → String
  | nothing => "NoAction"
  | deliver payload _ =>
    "Deliver \x7b payload_len: " ++ toString payload.length ++ ", .. \x7d"

end Action

/-- A packet on its way to a peer. -/
structure Transmission where
  peer : SocketAddress
  bytes : Bytes
  deriving DecidableEq

class Channel (C : Type) where
  /-- The tunnel that the channel belongs to. -/
  identity : C → Identity
  /-- The peer on record, whether or not it has gone silent. -/
  peer? : C → Option SocketAddress
  /-- Whether the channel is connected; one whose peer has gone silent is closed first. -/
  checkLive : Clock → C → C × Bool
  /-- Records a peer. -/
  connect : Clock → Sink → SocketAddress → C → C × Except ChannelError Unit
  /-- Records another peer in place of the one on record. -/
  reconnect : Clock → Sink → SocketAddress → C → C × Except ChannelError Unit
  /-- Forgets the peer, if there is one. -/
  close : C → C
  /-- Takes a packet from the peer. -/
  receive : Clock → Bytes → C → C × Except ChannelError Action
  /-- Packs a datagram for the peer. -/
  send : Clock → Bytes → C → C × Except ChannelError Transmission

namespace Channel

variable {C : Type} [Channel C]

/-- Points a channel at a peer, whatever it was connected to before. -/
def attach (clock : Clock) (sink : Sink) (peer : SocketAddress) (channel : C) :
    C × Except ChannelError Unit :=
  match checkLive clock channel with
  | (channel, true) => reconnect clock sink peer channel
  | (channel, false) => connect clock sink peer channel

/-- Points a channel at the source of a packet, unless it is connected to it already. -/
def follow (clock : Clock) (sink : Sink) (source : SocketAddress) (channel : C) :
    C × Except ChannelError Unit :=
  match checkLive clock channel with
  | (channel, false) => connect clock sink source channel
  | (channel, true) =>
    if peer? channel = some source then (channel, .ok ())
    else reconnect clock sink source channel

/-- Takes a packet from wherever it came: the source is followed first. -/
def accept (clock : Clock) (sink : Sink) (source : SocketAddress) (packet : Bytes) (channel : C) :
    C × Except ChannelError Action :=
  match follow clock sink source channel with
  | (channel, .error error) => (channel, .error error)
  | (channel, .ok ()) => receive clock packet channel

end Channel

end TunnelServer
