import TunnelServer.Proofs.Session.Change
import TunnelServer.Proofs.Session.Reception

/-!
# What keeps a session alive

A session is live while it has a link and was heard from lately.  Most of what is done with a session
tells nothing about its peer: then it keeps its link, or loses a link that was not live anyway, and
whether it is live afterwards is what it was before.  Attaching a session, or taking a packet from
wherever it came, links it to the peer at that moment, whatever it was before.
-/

namespace TunnelServer.Session

variable {clock : Clock} {session before between after : Session}

/-- Nothing happens to a session that tells of its peer; at most a link that is not live is lost. -/
structure Rests (clock : Clock) (before after : Session) : Prop where
  profile : after.profile = before.profile
  heard : after.lastReceived = before.lastReceived
  link : after.link = before.link ∨ before.isLive clock = false ∧ after.link = none

theorem isLive_eq (clock : Clock) (session : Session) :
    session.isLive clock =
      (session.link.isSome &&
        decide (clock.now - session.lastReceived ≤ session.profile.patience)) :=
  rfl

theorem isLive_iff_of_peer? {peer : SocketAddress} (connected : session.peer? = some peer) :
    session.isLive clock = true ↔
      clock.now - session.lastReceived ≤ session.profile.patience := by
  rcases Option.map_eq_some_iff.mp connected with ⟨link, linked, -⟩
  simp [isLive_eq, linked]

theorem snd_checkLive (clock : Clock) (session : Session) :
    (session.checkLive clock).2 = session.isLive clock := by
  cases live : session.isLive clock with
  | true => rw [checkLive_of_isLive live]
  | false => rw [checkLive_of_not_isLive live]

namespace Rests

theorem refl (clock : Clock) (session : Session) : session.Rests clock session :=
  ⟨rfl, rfl, .inl rfl⟩

theorem of_unlinked (unlinked : session.link = none) : session.Rests clock session.close := by
  rw [close_of_unlinked unlinked]
  exact refl clock session

theorem trans (first : before.Rests clock between) (second : between.Rests clock after) :
    before.Rests clock after := by
  refine ⟨second.profile.trans first.profile, second.heard.trans first.heard, ?_⟩
  rcases second.link with kept | ⟨gone, lost⟩
  · rw [kept]
    exact first.link
  · rcases first.link with keptBefore | goneBefore
    · refine .inr ⟨?_, lost⟩
      rw [isLive_eq, keptBefore, first.heard, first.profile] at gone
      exact gone
    · exact .inr ⟨goneBefore.1, lost⟩

theorem unlinked (rests : before.Rests clock after) (unlinked : before.link = none) :
    after.link = none := by
  rcases rests.link with kept | lost
  · exact kept.trans unlinked
  · exact lost.2

end Rests

theorem rests_checkLive (clock : Clock) (session : Session) :
    session.Rests clock (session.checkLive clock).1 := by
  cases live : session.isLive clock with
  | true =>
      rw [checkLive_of_isLive live]
      exact .refl clock session
  | false =>
      rw [checkLive_of_not_isLive live]
      exact ⟨rfl, rfl, .inr ⟨live, rfl⟩⟩

theorem rests_pack (clock : Clock) (header : Packet.Header) (payload : Bytes) (session : Session) :
    session.Rests clock (session.pack clock header payload).1 := by
  refine ⟨profile_pack clock header payload session, ?_,
    .inl (link_pack clock header payload session)⟩
  simp only [pack]
  split <;> rfl

theorem rests_send (clock : Clock) (datagram : Bytes) (session : Session) :
    session.Rests clock (session.send clock datagram).1 := by
  simp only [send]
  split
  · exact .refl clock session
  · exact rests_pack clock _ datagram session

theorem rests_beat (clock : Clock) (session : Session) :
    session.Rests clock (session.beat clock).1 :=
  rests_pack clock _ [] session

/-- A session is linked to a peer that was heard from just now. -/
structure Attached (clock : Clock) (peer : SocketAddress) (before after : Session) : Prop where
  profile : after.profile = before.profile
  peer : after.peer? = some peer
  heard : after.lastReceived = clock.now

/-- Attaching links a session anew, whatever it was before. -/
theorem fst_attach (clock : Clock) (sink : Sink) (peer : SocketAddress) (session : Session) :
    (Channel.attach clock sink peer session).1 = session.linkTo clock sink peer := by
  simp only [Channel.attach, Channel.checkLive, Channel.connect, Channel.reconnect]
  cases live : session.isLive clock with
  | true =>
      rw [checkLive_of_isLive live]
      rcases Option.isSome_iff_exists.mp (Bool.and_eq_true_iff.mp live).1 with ⟨link, linked⟩
      simp only [reconnect, linked]
  | false =>
      rw [checkLive_of_not_isLive live]
      rfl

theorem attached_attach (clock : Clock) (sink : Sink) (peer : SocketAddress) (session : Session) :
    session.Attached clock peer (Channel.attach clock sink peer session).1 := by
  rw [fst_attach]
  exact ⟨rfl, rfl, rfl⟩

theorem lastReceived_receive {link : Link} {packet : Bytes} (linked : session.link = some link)
    (enough : Packet.headerLength ≤ packet.length) :
    (session.receive clock packet).1.lastReceived = clock.now := by
  simp only [receive, linked, Nat.not_lt.mpr enough, if_false]
  split <;> rfl

/-- Authentic or not, a packet that is long enough shows that its source is there. -/
theorem attached_accept {packet : Bytes} (clock : Clock) (localSink : Sink) (source : SocketAddress)
    (session : Session) (enough : Packet.headerLength ≤ packet.length) :
    session.Attached clock source (Channel.accept clock localSink source packet session).1 := by
  have linked := session.link_followed clock localSink source
  rw [accept_eq session enough]
  refine ⟨?_, ?_, lastReceived_receive linked enough⟩
  · rw [profile_receive, profile_followed]
  · rw [peer?, link_receive, linked]
    rfl

end TunnelServer.Session
