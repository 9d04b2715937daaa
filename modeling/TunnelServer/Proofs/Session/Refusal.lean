import Mathlib.Tactic.ByContra
import TunnelServer.Proofs.Routing
import TunnelServer.Proofs.Session.Counting
import TunnelServer.Proofs.Session.Liveness

/-!
# Which calls a session refuses

Whether a session refuses a call depends on whether it has a link on record and on the size of what it
is given, and on nothing else: a peer that has been silent for too long counts as long as nobody has
noticed.  A refused call leaves the session as it was, and a call that is not refused changes no more
than it is made for.
-/

namespace TunnelServer.Session

/-- The rules by which a session refuses calls.  A datagram that is too large is refused for that
whether or not there is a link; a packet that is too short only if there is one. -/
inductive Refuses (session : Session) : Call → ChannelError → Prop where
  | connect {sink : Sink} {peer : SocketAddress} (linked : session.link.isSome) :
      Refuses session (.connect sink peer) (.alreadyConnected session.identity)
  | reconnect {sink : Sink} {peer : SocketAddress} (unlinked : session.link = none) :
      Refuses session (.reconnect sink peer) (.notConnected session.identity)
  | receive {packet : Bytes} (unlinked : session.link = none) :
      Refuses session (.receive packet) (.notConnected session.identity)
  | short {packet : Bytes} (linked : session.link.isSome) (short : packet.length < 44) :
      Refuses session (.receive packet) (.packetTooShort packet.length 44)
  | large {datagram : Bytes} (large : session.profile.mtu < datagram.length) :
      Refuses session (.send datagram) (.payloadTooLarge datagram.length session.profile.mtu)
  | send {datagram : Bytes} (fits : datagram.length ≤ session.profile.mtu)
      (unlinked : session.link = none) :
      Refuses session (.send datagram) (.notConnected session.identity)
  | beat (unlinked : session.link = none) :
      Refuses session .beat (.notConnected session.identity)

def errorOf? {α : Type} : Except ChannelError α → Option ChannelError
  | .error error => some error
  | .ok _ => none

namespace Moment

/-- The error that a call is refused with, if it is refused. -/
def refusal? (moment : Moment) : Call → Option ChannelError
  | .connect sink peer => errorOf? (moment.session.connect moment.clock sink peer).2
  | .reconnect sink peer => errorOf? (moment.session.reconnect moment.clock sink peer).2
  | .receive packet => errorOf? (moment.session.receive moment.clock packet).2
  | .send datagram => errorOf? (moment.session.send moment.clock datagram).2
  | .beat => errorOf? (moment.session.beat moment.clock).2
  | .advance _ => none
  | .close => none
  | .checkLive => none
  | .heartbeatDue => none

end Moment

variable {clock : Clock} {session : Session} {link : Link} {moment : Moment}
variable {packet datagram : Bytes}

/-! ## Without a link -/

theorem connect_of_unlinked (unlinked : session.link = none) (sink : Sink) (peer : SocketAddress) :
    session.connect clock sink peer = (session.linkTo clock sink peer, .ok ()) := by
  simp only [connect, unlinked]

theorem reconnect_of_unlinked (unlinked : session.link = none) (sink : Sink)
    (peer : SocketAddress) :
    session.reconnect clock sink peer = (session, .error (.notConnected session.identity)) := by
  simp only [reconnect, unlinked]

theorem receive_of_unlinked (unlinked : session.link = none) (packet : Bytes) :
    session.receive clock packet = (session, .error (.notConnected session.identity)) := by
  simp only [receive, unlinked]

theorem send_of_unlinked (unlinked : session.link = none)
    (fits : datagram.length ≤ session.profile.mtu) :
    session.send clock datagram = (session, .error (.notConnected session.identity)) := by
  simp only [send, pack, unlinked, Nat.not_lt.mpr fits, if_false]

theorem beat_of_unlinked (unlinked : session.link = none) :
    session.beat clock = (session, .error (.notConnected session.identity)) := by
  simp only [beat, pack, unlinked]

/-! ## With a link -/

theorem connect_of_linked (linked : session.link = some link) (sink : Sink) (peer : SocketAddress) :
    session.connect clock sink peer =
      (session, .error (.alreadyConnected session.identity)) := by
  simp only [connect, linked]

theorem reconnect_of_linked (linked : session.link = some link) (sink : Sink)
    (peer : SocketAddress) :
    session.reconnect clock sink peer = (session.linkTo clock sink peer, .ok ()) := by
  simp only [reconnect, linked]

theorem receive_of_short (linked : session.link = some link)
    (short : packet.length < Packet.headerLength) :
    session.receive clock packet =
      (session, .error (.packetTooShort packet.length Packet.headerLength)) := by
  simp only [receive, linked, short, if_true]

theorem beat_of_linked (linked : session.link = some link) :
    session.beat clock = ({ session with lastSent := clock.now },
      .ok ⟨link.peer, Packet.encode (.heartbeat session.identity clock.epoch)
        session.profile.key []⟩) := by
  simp only [beat, pack, linked]

namespace Moment

/-! ## Refused calls -/

theorem refusal?_of_refuses {call : Call} {error : ChannelError}
    (refuses : moment.session.Refuses call error) : moment.refusal? call = some error := by
  cases refuses with
  | connect linked =>
      rcases Option.isSome_iff_exists.mp linked with ⟨link, present⟩
      simp only [refusal?, connect_of_linked present, errorOf?]
  | reconnect unlinked => simp only [refusal?, reconnect_of_unlinked unlinked, errorOf?]
  | receive unlinked => simp only [refusal?, receive_of_unlinked unlinked, errorOf?]
  | short linked short =>
      rcases Option.isSome_iff_exists.mp linked with ⟨link, present⟩
      simp only [refusal?, receive_of_short present short, errorOf?]
      rfl
  | large large => simp only [refusal?, send_of_large _ large, errorOf?]
  | send fits unlinked => simp only [refusal?, send_of_unlinked unlinked fits, errorOf?]
  | beat unlinked => simp only [refusal?, beat_of_unlinked unlinked, errorOf?]

theorem refuses_or_accepts (moment : Moment) (call : Call) :
    (∃ error, moment.session.Refuses call error) ∨ moment.refusal? call = none := by
  rcases Option.eq_none_or_eq_some moment.session.link with unlinked | ⟨link, linked⟩
  · cases call with
    | connect sink peer => exact .inr (by simp only [refusal?, connect_of_unlinked unlinked, errorOf?])
    | reconnect sink peer => exact .inl ⟨_, .reconnect unlinked⟩
    | receive packet => exact .inl ⟨_, .receive unlinked⟩
    | send datagram =>
        rcases Nat.lt_or_ge moment.session.profile.mtu datagram.length with large | fits
        · exact .inl ⟨_, .large large⟩
        · exact .inl ⟨_, .send fits unlinked⟩
    | beat => exact .inl ⟨_, .beat unlinked⟩
    | _ => exact .inr rfl
  · have present : moment.session.link.isSome := by simp [linked]
    cases call with
    | connect sink peer => exact .inl ⟨_, .connect present⟩
    | reconnect sink peer =>
        exact .inr (by simp only [refusal?, reconnect_of_linked linked, errorOf?])
    | receive packet =>
        rcases Nat.lt_or_ge packet.length Packet.headerLength with short | enough
        · exact .inl ⟨_, .short present short⟩
        · exact .inr (by simp only [refusal?, snd_receive _ linked enough, errorOf?])
    | send datagram =>
        rcases Nat.lt_or_ge moment.session.profile.mtu datagram.length with large | fits
        · exact .inl ⟨_, .large large⟩
        · exact .inr (by simp only [refusal?, send_of_fits _ linked fits, errorOf?])
    | beat => exact .inr (by simp only [refusal?, beat_of_linked linked, errorOf?])
    | _ => exact .inr rfl

theorem refuses_of_refusal? {call : Call} {error : ChannelError}
    (refused : moment.refusal? call = some error) : moment.session.Refuses call error := by
  rcases moment.refuses_or_accepts call with ⟨other, refuses⟩ | accepted
  · cases (refusal?_of_refuses refuses).symm.trans refused
    exact refuses
  · cases accepted.symm.trans refused

theorem after_of_refuses {call : Call} {error : ChannelError}
    (refuses : moment.session.Refuses call error) : moment.after call = moment := by
  cases refuses with
  | connect linked =>
      rcases Option.isSome_iff_exists.mp linked with ⟨link, present⟩
      simp only [after, connect_of_linked present]
  | reconnect unlinked => simp only [after, reconnect_of_unlinked unlinked]
  | receive unlinked => simp only [after, receive_of_unlinked unlinked]
  | short linked short =>
      rcases Option.isSome_iff_exists.mp linked with ⟨link, present⟩
      simp only [after, receive_of_short present short]
  | large large => simp only [after, send_of_large _ large]
  | send fits unlinked => simp only [after, send_of_unlinked unlinked fits]
  | beat unlinked => simp only [after, beat_of_unlinked unlinked]

theorem not_refuses {call : Call} (accepted : moment.refusal? call = none) (error : ChannelError) :
    ¬moment.session.Refuses call error := by
  intro refuses
  cases (refusal?_of_refuses refuses).symm.trans accepted

/-! ## Calls that are not refused -/

theorem unlinked_of_connect {sink : Sink} {peer : SocketAddress}
    (accepted : moment.refusal? (.connect sink peer) = none) : moment.session.link = none := by
  cases linked : moment.session.link with
  | none => rfl
  | some link => exact absurd (.connect (by simp [linked])) (not_refuses accepted _)

theorem linked_of_refuses {call : Call}
    (refuses : moment.session.link = none → ∃ error, moment.session.Refuses call error)
    (accepted : moment.refusal? call = none) : ∃ link, moment.session.link = some link := by
  cases linked : moment.session.link with
  | none =>
      rcases refuses linked with ⟨error, refused⟩
      exact absurd refused (not_refuses accepted error)
  | some link => exact ⟨link, rfl⟩

theorem after_reconnect {sink : Sink} {peer : SocketAddress}
    (accepted : moment.refusal? (.reconnect sink peer) = none) :
    moment.after (.reconnect sink peer) = moment.afterAll [.close, .connect sink peer] := by
  rcases linked_of_refuses (fun unlinked => ⟨_, .reconnect unlinked⟩) accepted with ⟨link, linked⟩
  have closed : moment.session.close.link = none := rfl
  simp only [after, afterAll, List.foldl_cons, List.foldl_nil, reconnect_of_linked linked,
    connect_of_unlinked closed]
  rfl

theorem after_receive (accepted : moment.refusal? (.receive packet) = none) :
    (moment.after (.receive packet)).session.lastReceived = moment.clock.now := by
  rcases linked_of_refuses (fun unlinked => ⟨_, .receive unlinked⟩) accepted with ⟨link, linked⟩
  apply lastReceived_receive linked
  by_contra short
  exact not_refuses accepted _ (.short (by simp [linked]) (Nat.not_le.mp short))

theorem after_send (accepted : moment.refusal? (.send datagram) = none) :
    moment.after (.send datagram) =
      { moment with session := { moment.session with lastSent := moment.clock.now } } := by
  have fits : datagram.length ≤ moment.session.profile.mtu := by
    by_contra large
    exact not_refuses accepted _ (.large (Nat.not_le.mp large))
  rcases linked_of_refuses (fun unlinked => ⟨_, .send fits unlinked⟩) accepted with ⟨link, linked⟩
  simp only [after, send_of_fits _ linked fits]

theorem after_beat (accepted : moment.refusal? .beat = none) :
    moment.after .beat =
      { moment with session := { moment.session with lastSent := moment.clock.now } } := by
  rcases linked_of_refuses (fun unlinked => ⟨_, .beat unlinked⟩) accepted with ⟨link, linked⟩
  simp only [after, beat_of_linked linked]

end Moment

/-- A session refuses calls by the rules and by no others, and a refused call leaves everything as it
was.  A connection that is not refused is a new link with both timestamps started anew, and a
reconnection is the same as closing and connecting.  Closing leaves no link and can be repeated.  A
packet that is not refused sets the time of the last reception and leaves the link and the time of the
last sending alone, and a datagram or a heartbeat sets the time of the last sending and nothing
else. -/
theorem calls_are_refused_by_rule (moment : Moment) :
    (∀ call error, moment.refusal? call = some error ↔ moment.session.Refuses call error) ∧
      (∀ call error, moment.refusal? call = some error → moment.after call = moment) ∧
      (∀ sink peer, moment.refusal? (.connect sink peer) = none →
        moment.after (.connect sink peer) = { moment with session := { moment.session with
          link := some ⟨sink, peer⟩
          lastReceived := moment.clock.now
          lastSent := moment.clock.now } }) ∧
      (∀ sink peer, moment.refusal? (.reconnect sink peer) = none →
        moment.after (.reconnect sink peer) = moment.afterAll [.close, .connect sink peer] ∧
          (moment.after .close).refusal? (.connect sink peer) = none) ∧
      moment.after .close = { moment with session := { moment.session with link := none } } ∧
      moment.afterAll [.close, .close] = moment.after .close ∧
      (∀ packet, moment.refusal? (.receive packet) = none →
        let heard := (moment.after (.receive packet)).session
        heard.lastReceived = moment.clock.now ∧ heard.link = moment.session.link ∧
          heard.lastSent = moment.session.lastSent) ∧
      (∀ datagram, moment.refusal? (.send datagram) = none →
        moment.after (.send datagram) =
          { moment with session := { moment.session with lastSent := moment.clock.now } }) ∧
      (moment.refusal? .beat = none →
        moment.after .beat =
          { moment with session := { moment.session with lastSent := moment.clock.now } }) := by
  refine ⟨?_, ?_, ?_, ?_, rfl, rfl, ?_, ?_, Moment.after_beat⟩
  · intro call error
    exact ⟨Moment.refuses_of_refusal?, Moment.refusal?_of_refuses⟩
  · intro call error refused
    exact Moment.after_of_refuses (Moment.refuses_of_refusal? refused)
  · intro sink peer accepted
    simp only [Moment.after, connect_of_unlinked (Moment.unlinked_of_connect accepted)]
    rfl
  · intro sink peer accepted
    exact ⟨Moment.after_reconnect accepted, rfl⟩
  · intro packet accepted heard
    refine ⟨Moment.after_receive accepted, ?_, ?_⟩
    · exact link_receive moment.clock packet moment.session
    · exact lastSent_receive moment.clock packet moment.session
  · intro datagram accepted
    exact Moment.after_send accepted

end TunnelServer.Session
