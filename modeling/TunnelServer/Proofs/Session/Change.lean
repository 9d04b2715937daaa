import Mathlib.Logic.Relation
import TunnelServer.Session

/-!
# What can become of a session

Whatever is done with a session at one moment comes down to four changes: it is closed, it is
linked, it hears a packet, or it packs one.  A session that has no link gets one only by being
linked, which `mayLink` permits or not.  None of the changes touches what a session never changes.
-/

namespace TunnelServer.Session

/-- One change of a session at the moment that a clock shows. -/
inductive Change (clock : Clock) (mayLink : Prop) : Session → Session → Prop where
  | closed (session : Session) : Change clock mayLink session session.close
  | linked (session : Session) (sink : Sink) (peer : SocketAddress)
      (permitted : session.link.isSome ∨ mayLink) :
      Change clock mayLink session (session.linkTo clock sink peer)
  | heard (session : Session) (packet : Bytes) :
      Change clock mayLink session (session.receive clock packet).1
  | packed (session : Session) (header : Packet.Header) (payload : Bytes) :
      Change clock mayLink session (session.pack clock header payload).1

abbrev Changes (clock : Clock) (mayLink : Prop) : Session → Session → Prop :=
  Relation.ReflTransGen (Change clock mayLink)

variable {clock : Clock} {mayLink : Prop} {before after : Session}

theorem profile_receive (clock : Clock) (packet : Bytes) (session : Session) :
    (session.receive clock packet).1.profile = session.profile := by
  unfold receive
  split
  · rfl
  · split
    · rfl
    · dsimp only
      split <;> rfl

theorem link_receive (clock : Clock) (packet : Bytes) (session : Session) :
    (session.receive clock packet).1.link = session.link := by
  unfold receive
  split
  · rfl
  · split
    · rfl
    · dsimp only
      split <;> rfl

theorem lastSent_receive (clock : Clock) (packet : Bytes) (session : Session) :
    (session.receive clock packet).1.lastSent = session.lastSent := by
  unfold receive
  split
  · rfl
  · split
    · rfl
    · dsimp only
      split <;> rfl

theorem profile_pack (clock : Clock) (header : Packet.Header) (payload : Bytes)
    (session : Session) : (session.pack clock header payload).1.profile = session.profile := by
  simp only [pack]
  split <;> rfl

theorem link_pack (clock : Clock) (header : Packet.Header) (payload : Bytes)
    (session : Session) : (session.pack clock header payload).1.link = session.link := by
  simp only [pack]
  split <;> rfl

namespace Change

theorem profile_eq (change : Change clock mayLink before after) :
    after.profile = before.profile := by
  cases change with
  | closed => rfl
  | linked => rfl
  | heard packet => exact profile_receive clock packet before
  | packed header payload => exact profile_pack clock header payload before

theorem link_of_link (change : Change clock mayLink before after) (has : after.link.isSome) :
    before.link.isSome ∨ mayLink := by
  cases change with
  | closed => cases has
  | linked sink peer permitted => exact permitted
  | heard packet =>
      rw [link_receive] at has
      exact .inl has
  | packed header payload =>
      rw [link_pack] at has
      exact .inl has

end Change

namespace Changes

theorem profile_eq (changes : Changes clock mayLink before after) :
    after.profile = before.profile := by
  induction changes with
  | refl => rfl
  | tail _ change hypothesis => rw [change.profile_eq, hypothesis]

theorem link_of_link (changes : Changes clock mayLink before after) (has : after.link.isSome) :
    before.link.isSome ∨ mayLink := by
  induction changes with
  | refl => exact .inl has
  | tail _ change hypothesis =>
      rcases change.link_of_link has with earlier | permitted
      · exact hypothesis earlier
      · exact .inr permitted

end Changes

/-! ## The operations of a session -/

theorem changes_close (session : Session) : Changes clock mayLink session session.close :=
  .single (.closed session)

theorem changes_checkLive (session : Session) :
    Changes clock mayLink session (session.checkLive clock).1 := by
  simp only [checkLive]
  split
  · exact .refl
  · split
    · exact session.changes_close
    · exact .refl

theorem changes_connect (session : Session) (sink : Sink) (peer : SocketAddress)
    (permitted : mayLink) : Changes clock mayLink session (session.connect clock sink peer).1 := by
  simp only [connect]
  split
  · exact .refl
  · exact .single (.linked session sink peer (.inr permitted))

theorem changes_reconnect (session : Session) (sink : Sink) (peer : SocketAddress) :
    Changes clock mayLink session (session.reconnect clock sink peer).1 := by
  simp only [reconnect]
  split
  · exact .refl
  · rename_i link found
    exact .single (.linked session sink peer (.inl (by simp [found])))

theorem changes_receive (session : Session) (packet : Bytes) :
    Changes clock mayLink session (session.receive clock packet).1 :=
  .single (.heard session packet)

theorem changes_send (session : Session) (datagram : Bytes) :
    Changes clock mayLink session (session.send clock datagram).1 := by
  simp only [send]
  split
  · exact .refl
  · exact .single (.packed session _ datagram)

theorem changes_beat (session : Session) :
    Changes clock mayLink session (session.beat clock).1 :=
  .single (.packed session _ [])

theorem changes_attach (session : Session) (sink : Sink) (peer : SocketAddress)
    (permitted : mayLink) :
    Changes clock mayLink session (Channel.attach clock sink peer session).1 := by
  have checked : Changes clock mayLink session (session.checkLive clock).1 :=
    session.changes_checkLive
  simp only [Channel.attach]
  split
  · rename_i live found
    replace found : session.checkLive clock = (live, true) := found
    rw [found] at checked
    exact checked.trans (live.changes_reconnect sink peer)
  · rename_i gone found
    replace found : session.checkLive clock = (gone, false) := found
    rw [found] at checked
    exact checked.trans (gone.changes_connect sink peer permitted)

theorem changes_follow (session : Session) (sink : Sink) (source : SocketAddress)
    (permitted : mayLink) :
    Changes clock mayLink session (Channel.follow clock sink source session).1 := by
  have checked : Changes clock mayLink session (session.checkLive clock).1 :=
    session.changes_checkLive
  simp only [Channel.follow]
  split
  · rename_i gone found
    replace found : session.checkLive clock = (gone, false) := found
    rw [found] at checked
    exact checked.trans (gone.changes_connect sink source permitted)
  · rename_i live found
    replace found : session.checkLive clock = (live, true) := found
    rw [found] at checked
    split
    · exact checked
    · exact checked.trans (live.changes_reconnect sink source)

theorem changes_accept (session : Session) (sink : Sink) (source : SocketAddress)
    (packet : Bytes) (permitted : mayLink) :
    Changes clock mayLink session (Channel.accept clock sink source packet session).1 := by
  have followed : Changes clock mayLink session (Channel.follow clock sink source session).1 :=
    session.changes_follow sink source permitted
  simp only [Channel.accept]
  split
  · rename_i refused error found
    rw [found] at followed
    exact followed
  · rename_i attached found
    rw [found] at followed
    exact followed.trans (attached.changes_receive packet)

end TunnelServer.Session
