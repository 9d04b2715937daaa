import TunnelServer.Proofs.Packet.Admission
import TunnelServer.Session

/-!
# How a session takes a packet

A session that takes a packet from wherever it came is linked to the source afterwards: it stays as it
was if it was live with that very peer, and is linked anew otherwise.  What it then makes of the
packet depends on its profile, the stamp of the moment and the packet alone.
-/

namespace TunnelServer

namespace Profile

variable {profile : Profile} {here : Epoch} {packet payload : Bytes}

/-- A packet carries a datagram if it is verified as a forwarded one that is not empty. -/
theorem judge_eq_carries_iff :
    profile.judge here packet = .carries payload ↔
      ∃ header, Packet.verify packet profile.key profile.senders here Packet.Limits.standard =
          .ok ⟨header, payload⟩ ∧ header.opcode = .forward ∧ payload ≠ [] := by
  simp only [judge]
  cases Packet.verify packet profile.key profile.senders here Packet.Limits.standard with
  | error error => simp
  | ok verified =>
      rcases verified with ⟨header, found⟩
      by_cases forwarded : header.opcode = .forward
      · by_cases empty : found = []
        · simp only [forwarded, empty, Except.ok.injEq, Packet.Verified.mk.injEq]
          simp only [Packet.Opcode.isActionable, Bool.not_true, Bool.false_eq_true, if_false,
            if_true, reduceCtorEq, false_iff]
          rintro ⟨_, ⟨_, rfl⟩, _, filled⟩
          exact filled rfl
        · simp only [forwarded, empty, Packet.Opcode.isActionable, Bool.not_true,
            Bool.false_eq_true, if_false, if_true, Verdict.carries.injEq, Except.ok.injEq,
            Packet.Verified.mk.injEq]
          constructor
          · rintro rfl
            exact ⟨header, ⟨rfl, rfl⟩, forwarded, empty⟩
          · rintro ⟨_, ⟨_, rfl⟩, _⟩
            rfl
      · simp only [forwarded, if_false, Except.ok.injEq, Packet.Verified.mk.injEq]
        constructor
        · intro judged
          split at judged <;> cases judged
        · rintro ⟨_, ⟨rfl, _⟩, other, _⟩
          exact absurd other forwarded

end Profile

namespace Session

variable {clock : Clock} {localSink : Sink} {source : SocketAddress} {packet : Bytes}

/-- Whether a session has a link and its peer has not been silent for too long. -/
def isLive (clock : Clock) (session : Session) : Bool :=
  session.link.isSome && session.silence clock ≤ session.profile.patience

/-- Whether a session is live with a peer. -/
def isLiveWith (clock : Clock) (peer : SocketAddress) (session : Session) : Bool :=
  session.isLive clock && session.peer? = some peer

theorem checkLive_of_isLive {session : Session} (live : session.isLive clock = true) :
    session.checkLive clock = (session, true) := by
  simp only [isLive, Bool.and_eq_true, decide_eq_true_eq] at live
  rcases live with ⟨linked, heard⟩
  simp only [checkLive]
  split
  · rename_i absent
    rw [absent] at linked
    cases linked
  · rw [if_neg (Nat.not_lt.mpr heard)]

theorem checkLive_of_not_isLive {session : Session} (gone : session.isLive clock = false) :
    session.checkLive clock = (session.close, false) := by
  simp only [checkLive]
  split
  · rename_i absent
    rw [close_of_unlinked absent]
  · rename_i link present
    have silent : ¬session.silence clock ≤ session.profile.patience := by
      simpa [isLive, present] using gone
    rw [if_pos (Nat.not_le.mp silent)]

/-- The session that has followed a source. -/
def followed (clock : Clock) (localSink : Sink) (source : SocketAddress) (session : Session) :
    Session :=
  if session.isLiveWith clock source then session else session.linkTo clock localSink source

/-- Where a payload from a source goes: to the sink on record if the session was live with that
source already, and to the pump's own otherwise. -/
def sinkFor (clock : Clock) (localSink : Sink) (source : SocketAddress) (session : Session) :
    Sink :=
  match session.link with
  | none => localSink
  | some link => if session.isLiveWith clock source then link.sink else localSink

/-- Following a source never fails. -/
theorem follow_eq (session : Session) :
    Channel.follow clock localSink source session =
      (session.followed clock localSink source, .ok ()) := by
  simp only [Channel.follow, Channel.checkLive, Channel.connect, Channel.reconnect, Channel.peer?]
  cases live : session.isLive clock with
  | false =>
      have apart : session.followed clock localSink source =
          session.linkTo clock localSink source := by simp [followed, isLiveWith, live]
      rw [checkLive_of_not_isLive live, apart]
      rfl
  | true =>
      rw [checkLive_of_isLive live]
      by_cases same : session.peer? = some source
      · simp [followed, isLiveWith, live, same]
      · rcases Option.isSome_iff_exists.mp (Bool.and_eq_true_iff.mp live).1 with ⟨link, present⟩
        simp [followed, isLiveWith, live, same, reconnect, present]

theorem profile_followed (clock : Clock) (localSink : Sink) (source : SocketAddress)
    (session : Session) :
    (session.followed clock localSink source).profile = session.profile := by
  simp only [followed]
  split <;> rfl

theorem link_followed (clock : Clock) (localSink : Sink) (source : SocketAddress)
    (session : Session) :
    (session.followed clock localSink source).link =
      some ⟨session.sinkFor clock localSink source, source⟩ := by
  simp only [followed, sinkFor]
  split
  · rename_i live
    simp only [isLiveWith, Bool.and_eq_true, decide_eq_true_eq, peer?,
      Option.map_eq_some_iff] at live
    rcases live.2 with ⟨link, found, rfl⟩
    rw [found]
  · rename_i stale
    cases session.link with
    | none => rfl
    | some link => rfl

/-- What a session with a link answers to a packet that is long enough. -/
theorem snd_receive (clock : Clock) {session : Session} {link : Link}
    (linked : session.link = some link) (enough : Packet.headerLength ≤ packet.length) :
    (session.receive clock packet).2 = .ok
      (match session.profile.judge clock.epoch packet with
      | .carries payload => .deliver payload link.sink
      | _ => .nothing) := by
  simp only [receive, linked, Nat.not_lt.mpr enough, if_false]
  cases session.profile.judge clock.epoch packet <;> rfl

/-- What a session does about a packet from wherever it came. -/
def reaction (clock : Clock) (localSink : Sink) (source : SocketAddress) (packet : Bytes)
    (session : Session) : Action :=
  match session.profile.judge clock.epoch packet with
  | .carries payload => .deliver payload (session.sinkFor clock localSink source)
  | _ => .nothing

theorem accept_eq (session : Session) (enough : Packet.headerLength ≤ packet.length) :
    Channel.accept clock localSink source packet session =
      (((session.followed clock localSink source).receive clock packet).1,
        .ok (session.reaction clock localSink source packet)) := by
  have answered := snd_receive clock (session.link_followed clock localSink source) enough
  rw [profile_followed] at answered
  simp only [Channel.accept, follow_eq, Channel.receive, reaction]
  rw [← answered]

end Session

end TunnelServer
