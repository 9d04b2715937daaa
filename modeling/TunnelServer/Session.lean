import TunnelServer.Channel
import TunnelServer.Packet.Admission
import TunnelServer.Text.Quoted

/-!
# Sessions

A session is the channel of one tunnel.  It knows the tunnel's key, records where its peer is and
when it last heard from and wrote to it, and counts what it could not use.  A peer that has been
silent for longer than a heartbeat interval and a grace period is taken to be gone; that is noticed
when someone asks.
-/

namespace TunnelServer

/-- What a session never changes. -/
structure Profile where
  identity : Identity
  popIdentity : Identity
  tunnelId : String
  key : Packet.SharedKey
  mtu : Nat
  /-- Nanoseconds between heartbeats. -/
  heartbeatInterval : Nat

/-- What a packet amounts to for the tunnel it was sent to. -/
inductive Verdict where
  | invalid
  | alive
  | carries (payload : Bytes)
  deriving DecidableEq

namespace Profile

/-- Seconds of silence tolerated beyond a heartbeat interval. -/
def graceSeconds : Nat := 10

/-- The longest silence after which a peer still counts as connected. -/
def patience (profile : Profile) : Nat :=
  profile.heartbeatInterval + graceSeconds * Epoch.nanosPerSecond

/-- The senders whose packets are accepted: both ends of the tunnel. -/
def senders (profile : Profile) : List Identity := [profile.identity, profile.popIdentity]

/-- What a packet amounts to.  It has to be authentic and to ask for something that a tunnel does;
a forwarded datagram must not be empty. -/
def judge (profile : Profile) (here : Epoch) (packet : Bytes) : Verdict :=
  match Packet.verify packet profile.key profile.senders here Packet.Limits.standard with
  | .error _ => .invalid
  | .ok verified =>
    if !verified.header.opcode.isActionable then .invalid
    else if verified.header.opcode = .forward then
      if verified.payload = [] then .invalid else .carries verified.payload
    else .alive

end Profile

structure Session where
  profile : Profile
  link : Option Link
  lastReceived : Instant
  lastSent : Instant
  /-- Whether any packet was ever usable. -/
  validSeen : Bool
  /-- How many packets were not. -/
  invalidCount : Nat

namespace Session

/-- The profile that a record describes. -/
def profileOf (record : TunnelRecord) : Profile where
  identity := record.endpoint
  popIdentity := record.pop
  tunnelId := record.tunnelId
  key := record.sharedKey
  mtu := record.mtu.toNat
  heartbeatInterval := record.heartbeatInterval.toNat * Epoch.nanosPerSecond

/-- A new session, not connected, if one can be made of the record. -/
def create (record : TunnelRecord) (clock : Clock) : Except ChannelError Session :=
  match record.validate with
  | .error error => .error error
  | .ok () => .ok {
      profile := profileOf record
      link := none
      lastReceived := clock.now
      lastSent := clock.now
      validSeen := false
      invalidCount := 0 }

def identity (session : Session) : Identity := session.profile.identity

def peer? (session : Session) : Option SocketAddress := session.link.map Link.peer

/-- How long nothing has been received. -/
def silence (session : Session) (clock : Clock) : Nat := clock.now - session.lastReceived

/-- Records a peer and starts both timestamps anew. -/
def linkTo (session : Session) (clock : Clock) (sink : Sink) (peer : SocketAddress) : Session :=
  { session with
    link := some ⟨sink, peer⟩
    lastReceived := clock.now
    lastSent := clock.now }

/-- Connects a session that has no link; a link counts even if its peer has gone silent. -/
def connect (clock : Clock) (sink : Sink) (peer : SocketAddress) (session : Session) :
    Session × Except ChannelError Unit :=
  match session.link with
  | some _ => (session, .error (.alreadyConnected session.identity))
  | none => (session.linkTo clock sink peer, .ok ())

/-- Moves a session that has a link to another peer. -/
def reconnect (clock : Clock) (sink : Sink) (peer : SocketAddress) (session : Session) :
    Session × Except ChannelError Unit :=
  match session.link with
  | none => (session, .error (.notConnected session.identity))
  | some _ => (session.linkTo clock sink peer, .ok ())

def close (session : Session) : Session := { session with link := none }

theorem close_of_unlinked {session : Session} (unlinked : session.link = none) :
    session.close = session := by
  rw [close, ← unlinked]

/-- Whether the session is connected; a link whose peer has been silent for too long is given up. -/
def checkLive (clock : Clock) (session : Session) : Session × Bool :=
  match session.link with
  | none => (session, false)
  | some _ =>
    if session.profile.patience < session.silence clock then (session.close, false)
    else (session, true)

def countInvalid (session : Session) : Session :=
  { session with invalidCount := session.invalidCount + 1 }

/-- Takes a packet from the peer.  Any packet that is long enough to have a header shows that the
peer is there, authentic or not. -/
def receive (clock : Clock) (packet : Bytes) (session : Session) :
    Session × Except ChannelError Action :=
  match session.link with
  | none => (session, .error (.notConnected session.identity))
  | some link =>
    if packet.length < Packet.headerLength then
      (session, .error (.packetTooShort packet.length Packet.headerLength))
    else
      let session := { session with lastReceived := clock.now }
      match session.profile.judge clock.epoch packet with
      | .invalid => (session.countInvalid, .ok .nothing)
      | .alive => ({ session with validSeen := true }, .ok .nothing)
      | .carries payload => ({ session with validSeen := true }, .ok (.deliver payload link.sink))

def pack (clock : Clock) (header : Packet.Header) (payload : Bytes) (session : Session) :
    Session × Except ChannelError Transmission :=
  match session.link with
  | none => (session, .error (.notConnected session.identity))
  | some link =>
    ({ session with lastSent := clock.now },
      .ok ⟨link.peer, Packet.encode header session.profile.key payload⟩)

/-- Packs a datagram for the peer, if it is no larger than the tunnel lets through. -/
def send (clock : Clock) (datagram : Bytes) (session : Session) :
    Session × Except ChannelError Transmission :=
  if session.profile.mtu < datagram.length then
    (session, .error (.payloadTooLarge datagram.length session.profile.mtu))
  else session.pack clock (.forward session.identity clock.epoch) datagram

def beat (clock : Clock) (session : Session) : Session × Except ChannelError Transmission :=
  session.pack clock (.heartbeat session.identity clock.epoch) []

/-- Whether the session has a link and nothing was sent for a heartbeat interval. -/
def heartbeatDue (clock : Clock) (session : Session) : Bool :=
  session.link.isSome && session.profile.heartbeatInterval ≤ clock.now - session.lastSent

instance : Channel Session where
  identity := identity
  peer? := peer?
  checkLive := checkLive
  connect := connect
  reconnect := reconnect
  close := close
  receive := receive
  send := send

/-- How diagnostics show the peer on record. -/
def describePeer (session : Session) : String :=
  match session.peer? with
  | none => "None"
  | some peer => "Some(" ++ peer.toText ++ ")"

def describe (session : Session) : String :=
  "Session \x7b identity: " ++ session.identity.describe ++
    ", tunnel_id: " ++ Text.quoted session.profile.tunnelId ++
    ", peer: " ++ session.describePeer ++
    ", invalid_packets: " ++ toString session.invalidCount ++ ", .. \x7d"

end Session

end TunnelServer
