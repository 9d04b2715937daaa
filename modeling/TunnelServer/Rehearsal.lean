import TunnelServer.Channel
import TunnelServer.Packet.Header

/-!
# Rehearsed channels

A channel without keys or timers whose behaviour is laid down in advance.  It lets the registry and
the pumps be tried with refusals and silences that a session would not show at that point.
-/

namespace TunnelServer

/-- A refusal laid down in advance. -/
inductive RehearsedError where
  | notConnected | alreadyConnected | packetTooShort | payloadTooLarge
  deriving DecidableEq

namespace RehearsedError

/-- The error of a refusal, for a channel and the length of what was handed in. -/
def toError (identity : Identity) (actual : Nat) : RehearsedError → ChannelError
  | notConnected => .notConnected identity
  | alreadyConnected => .alreadyConnected identity
  | packetTooShort => .packetTooShort actual Packet.headerLength
  | payloadTooLarge => .payloadTooLarge actual 1

end RehearsedError

/-- A channel that acts by a script. -/
structure Rehearsal where
  identity : Identity
  /-- Whether packets are delivered as they come. -/
  delivers : Bool := false
  /-- Whether every check finds the peer gone. -/
  stale : Bool := false
  connectError : Option RehearsedError := none
  reconnectError : Option RehearsedError := none
  receiveError : Option RehearsedError := none
  sendError : Option RehearsedError := none
  link : Option Link := none

namespace Rehearsal

/-- Records a link unless a refusal is laid down. -/
def linkTo (error : Option RehearsedError) (sink : Sink) (peer : SocketAddress)
    (channel : Rehearsal) : Rehearsal × Except ChannelError Unit :=
  match error with
  | some error => (channel, .error (error.toError channel.identity 0))
  | none => ({ channel with link := some ⟨sink, peer⟩ }, .ok ())

/-- Takes a packet by the script. -/
def receive (packet : Bytes) (channel : Rehearsal) : Rehearsal × Except ChannelError Action :=
  match channel.receiveError, channel.link with
  | some error, _ => (channel, .error (error.toError channel.identity packet.length))
  | none, none => (channel, .ok .nothing)
  | none, some link =>
    (channel, .ok (if channel.delivers then .deliver packet link.sink else .nothing))

/-- Passes a datagram on by the script. -/
def send (datagram : Bytes) (channel : Rehearsal) : Rehearsal × Except ChannelError Transmission :=
  match channel.sendError, channel.link with
  | some error, _ => (channel, .error (error.toError channel.identity datagram.length))
  | none, none => (channel, .error (.notConnected channel.identity))
  | none, some link => (channel, .ok ⟨link.peer, datagram⟩)

instance : Channel Rehearsal where
  identity := identity
  peer? channel := channel.link.map Link.peer
  checkLive _ channel :=
    let channel := if channel.stale then { channel with link := none } else channel
    (channel, channel.link.isSome)
  connect _ sink peer channel := channel.linkTo channel.connectError sink peer
  reconnect _ sink peer channel := channel.linkTo channel.reconnectError sink peer
  close channel := { channel with link := none }
  receive _ packet channel := channel.receive packet
  send _ datagram channel := channel.send datagram

end Rehearsal

end TunnelServer
