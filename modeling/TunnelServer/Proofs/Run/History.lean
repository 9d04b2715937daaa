import TunnelServer.Proofs.Delivery
import TunnelServer.Proofs.Run.Registration
import TunnelServer.Proofs.Run.Rest

/-!
# Histories

A history is what has happened to a server, the latest event first: each operation together with the
state that it was performed in.  To a given session an event does one of three things.  It attaches
the session to a peer, or it takes the session's place in the mapping away, or it lets it rest.
-/

namespace TunnelServer

/-- An event in the history of a server: an operation with the state in which it is performed. -/
structure Occurrence where
  state : State Session
  operation : SessionOperation

namespace Occurrence

/-- The state that an event leads to. -/
def next (link : LocalLink) (event : Occurrence) : State Session :=
  (event.operation.apply link event.state).1

/-- Whether an event is a heartbeat pass. -/
def isPass (event : Occurrence) : Bool :=
  match event.operation with
  | .heartbeatPass => true
  | _ => false

/-- The states of the mapping that an event goes through; a replacement maps one session after the
other. -/
def stages (link : LocalLink) (event : Occurrence) : List (State Session) :=
  match event.operation with
  | .common (.replaceAll handles) =>
    State.installStages handles event.state ++ [event.next link]
  | _ => [event.next link]

/-- A mapped session is removed or displaced in the course of an event, even if it is mapped anew
before the event is over. -/
def Unseats (link : LocalLink) (handle : Handle) (event : Occurrence) : Prop :=
  handle ∈ event.state.registry.handles ∧
    ∃ stage ∈ event.stages link, handle ∉ stage.registry.handles

/-- An event attaches a session to a peer: the session is installed with that peer, or it is mapped
to the identity that a packet from that peer claims to come from. -/
inductive Attaches (handle : Handle) (peer : SocketAddress) : Occurrence → Prop where
  | installed {state : State Session} {sink : Sink} (known : handle < state.channels.length) :
      Attaches handle peer ⟨state, .common (.installOrReplace handle sink peer)⟩
  | arrived {state : State Session} {bytes : Bytes} {identity : Identity}
      (claimed : Packet.claimedSender? bytes state.clock.epoch = some identity)
      (mapped : state.registry.lookup identity = some handle) :
      Attaches handle peer ⟨state, .common (.packet bytes peer)⟩

end Occurrence

/-- What has happened to a server since it was started with a clock, the latest event first.  Each
operation may find the registry's entries in any order. -/
inductive History (link : LocalLink) (origin : Clock) : List Occurrence → State Session → Prop where
  | start : History link origin [] { clock := origin }
  | step {events : List Occurrence} {state : State Session} {registry : Registry}
      (earlier : History link origin events state)
      (same : registry.entries.Perm state.registry.entries) (operation : SessionOperation)
      (indirect : ¬operation.Meddles) :
      History link origin (⟨{ state with registry := registry }, operation⟩ :: events)
        (operation.apply link { state with registry := registry }).1

/-- The latest event that attached a session attached it to a peer at a moment, and the session was
neither removed nor displaced since. -/
inductive AttachedLast (link : LocalLink) (handle : Handle) (peer : SocketAddress)
    (time : Instant) : List Occurrence → Prop where
  | now {event : Occurrence} {earlier : List Occurrence} (attaches : event.Attaches handle peer)
      (moment : event.state.clock.now = time) :
      AttachedLast link handle peer time (event :: earlier)
  | before {event : Occurrence} {earlier : List Occurrence}
      (apart : ∀ other, ¬event.Attaches handle other) (seated : ¬event.Unseats link handle)
      (latest : AttachedLast link handle peer time earlier) :
      AttachedLast link handle peer time (event :: earlier)

section

variable {link : LocalLink} {origin : Clock} {events : List Occurrence} {state : State Session}
variable {event : Occurrence} {handle : Handle} {session : Session} {peer : SocketAddress}

/-! ## The states of a history -/

theorem SessionOperation.not_connectsDirectly {operation : SessionOperation}
    (indirect : ¬operation.Meddles) : ¬operation.ConnectsDirectly := by
  intro direct
  apply indirect
  cases operation with
  | common operation =>
      cases operation with
      | connect => trivial
      | _ => exact direct.elim
  | _ => exact direct.elim

namespace History

theorem reachable (history : History link origin events state) :
    Reachable link (fun operation => ¬operation.Meddles) state := by
  refine ⟨origin, ?_⟩
  induction history with
  | start => exact .start
  | step _ same operation indirect hypothesis =>
      exact (hypothesis.reordered same).step operation indirect

theorem keyed (history : History link origin events state) : state.Keyed :=
  history.reachable.keyed

theorem exclusive (history : History link origin events state) : state.Exclusive :=
  history.reachable.exclusive fun _ => SessionOperation.not_connectsDirectly

/-- An operation that finds the registry as it was left. -/
theorem next (history : History link origin events state) {operation : SessionOperation}
    (indirect : ¬operation.Meddles) :
    History link origin (⟨state, operation⟩ :: events) (operation.apply link state).1 :=
  history.step (.refl state.registry.entries) operation indirect

end History

/-! ## One event -/

namespace State

theorem getElem?_append_of_known {sessions : List Session}
    (known : state.channels[handle]? = some session) :
    (state.channels ++ sessions)[handle]? = some session := by
  rcases List.getElem?_eq_some_iff.mp known with ⟨bound, -⟩
  rw [List.getElem?_append_left bound, known]

theorem reseats_reload (keyed : state.Keyed) (exclusive : state.Exclusive) (handle : Handle)
    (ipv4Pop : Ipv4Address) (loaded : Except DirectoryError (List TunnelRecord)) :
    Reseats handle [(state.reload ipv4Pop loaded).1] state (state.reload ipv4Pop loaded).1 := by
  simp only [reload]
  split
  · exact .of_untouched exclusive (fun _ known => known) id
  · rename_i records
    have moves : Moves False (fun _ => True) state
        { state with channels := state.channels ++ sessionsOf ipv4Pop state.clock records } :=
      moves_addAll state _ fun session => link_of_mem_sessionsOf
    have replaced := reseats_replaceAll (keyed.moves moves) (exclusive.moves keyed moves) handle
      (List.range' state.channels.length (sessionsOf ipv4Pop state.clock records).length)
    constructor
    · intro session known mapped
      -- Only new sessions are mapped in the end.
      rcases Registry.mem_handles_iff.mp (mapped _ List.mem_cons_self) with ⟨identity, found⟩
      have new := (List.mem_range'_1.mp (mem_of_lookup_replaceAll found)).1
      rcases List.getElem?_eq_some_iff.mp known with ⟨bound, -⟩
      exact absurd bound (Nat.not_lt.mpr new)
    · intro session known gone
      apply replaced.lost session (getElem?_append_of_known known)
      rcases gone with unlinked | ⟨stage, member, absent⟩
      · exact .inl unlinked
      · exact .inr ⟨stage, List.mem_append_right _ member, absent⟩

theorem getElem?_onChannel {α : Type} {default : α} {act : Session → Session × α}
    (known : state.channels[handle]? = some session) :
    (state.onChannel handle default act).1.channels[handle]? = some (act session).1 := by
  rcases List.getElem?_eq_some_iff.mp known with ⟨bound, -⟩
  simp only [onChannel, known]
  exact List.getElem?_set_self bound

theorem getElem?_onChannel_of_ne {α : Type} {one other : Handle} {default : α}
    {act : Session → Session × α} (different : one ≠ other) :
    (state.onChannel one default act).1.channels[other]? = state.channels[other]? := by
  simp only [onChannel]
  split
  · rfl
  · exact List.getElem?_set_ne different

theorem reseats_create (exclusive : state.Exclusive) (link : LocalLink) (record : TunnelRecord) :
    Reseats handle [((SessionOperation.create record).apply link state).1] state
      ((SessionOperation.create record).apply link state).1 := by
  simp only [SessionOperation.apply]
  split
  · exact .of_untouched exclusive (fun _ known => known) id
  · exact .of_untouched exclusive (fun _ => getElem?_append_of_known) id

theorem registry_onChannel {α : Type} {default : α} {act : Session → Session × α} :
    (state.onChannel handle default act).1.registry = state.registry := by
  simp only [onChannel]
  split <;> rfl

theorem fst_installOrReplace (handle : Handle) (sink : Sink) (peer : SocketAddress)
    (state : State Session) :
    (state.installOrReplace handle sink peer).1 =
      ((state.install handle).1.onChannel handle (.ok ())
        (Channel.attach (state.install handle).1.clock sink peer)).1 := by
  simp only [installOrReplace]
  split <;> rfl

theorem getElem?_installOrReplace (keyed : state.Keyed) (exclusive : state.Exclusive)
    (known : state.channels[handle]? = some session) (sink : Sink) (peer : SocketAddress) :
    (state.installOrReplace handle sink peer).1.channels[handle]? =
      some (session.linkTo state.clock sink peer) := by
  have installed : (state.install handle).1.channels[handle]? = some session := by
    apply (reseats_install keyed exclusive handle handle).kept _ known
    intro stage member
    rw [List.mem_singleton.mp member]
    exact mem_handles_install known
  rw [fst_installOrReplace, clock_install, getElem?_onChannel installed, Session.fst_attach]

theorem installOrReplace_of_unknown (sink : Sink) (peer : SocketAddress)
    (unknown : state.channels[handle]? = none) :
    (state.installOrReplace handle sink peer).1 = state := by
  rw [fst_installOrReplace, install_of_unknown unknown, onChannel, unknown]

variable {localSink : Sink} {packet : Bytes} {source : SocketAddress}

theorem sameTunnels_takePacket (localSink : Sink) (packet : Bytes) (source : SocketAddress)
    (state : State Session) : state.SameTunnels (state.takePacket localSink packet source) := by
  rcases takePacket_cases localSink packet source state with
    ⟨bump, counted⟩ | ⟨sender, taker, session, claimed, found⟩
  · rw [counted]
    exact ⟨rfl, rfl, rfl⟩
  · rw [takePacket_of_find? claimed found]
    refine ⟨registry_perform _ _, ?_, clock_perform _ _⟩
    simp only [profiles, channels_perform]
    apply profiles_set (find?_eq_some_iff.mp found).2
    rw [Session.profile_receive, Session.profile_followed]

theorem reseats_installOrReplace (keyed : state.Keyed) (exclusive : state.Exclusive)
    {installed : Handle} (sink : Sink) (peer : SocketAddress)
    (apart : installed = handle → state.channels[installed]? = none) :
    Reseats handle [(state.installOrReplace installed sink peer).1] state
      (state.installOrReplace installed sink peer).1 := by
  by_cases same : installed = handle
  · rw [installOrReplace_of_unknown sink peer (apart same)]
    exact .of_untouched exclusive (fun _ known => known) id
  · rw [fst_installOrReplace]
    apply (reseats_install keyed exclusive handle installed).of_same
    · exact getElem?_onChannel_of_ne same
    · exact registry_onChannel

/-- A packet is taken by the session that it claims to belong to. -/
theorem getElem?_takePacket_of_claimed (localSink : Sink) (source : SocketAddress)
    {sender : Identity}
    (claimed : Packet.claimedSender? packet state.clock.epoch = some sender)
    (mapped : state.registry.lookup sender = some handle)
    (known : state.channels[handle]? = some session) :
    (state.takePacket localSink packet source).channels[handle]? =
      some (Channel.accept state.clock localSink source packet session).1 := by
  have found := find?_eq_some_iff.mpr ⟨mapped, known⟩
  have enough := length_of_claimedSender? claimed
  rcases List.getElem?_eq_some_iff.mp known with ⟨bound, -⟩
  rw [takePacket_of_find? claimed found, channels_perform, channels_put, channels_count,
    List.getElem?_set_self bound, Session.accept_eq session enough]

theorem reseats_takePacket (exclusive : state.Exclusive)
    (elsewhere : ∀ sender, Packet.claimedSender? packet state.clock.epoch = some sender →
      state.registry.lookup sender ≠ some handle) :
    Reseats handle [state.takePacket localSink packet source] state
      (state.takePacket localSink packet source) := by
  refine .of_untouched exclusive ?_ ?_
  · intro session known
    rw [getElem?_takePacket_of_elsewhere elsewhere]
    exact known
  · rw [(sameTunnels_takePacket localSink packet source state).registry]
    exact id

end State

namespace Occurrence

theorem Attaches.unique {other : SocketAddress} (attaches : event.Attaches handle peer)
    (again : event.Attaches handle other) : peer = other := by
  cases attaches <;> cases again <;> rfl

/-- What an active operation does to a session that it does not attach. -/
theorem reseats (keyed : event.state.Keyed) (exclusive : event.state.Exclusive)
    (active : event.operation.IsActive) (apart : ∀ peer, ¬event.Attaches handle peer) :
    event.state.Reseats handle (event.stages link) (event.next link) := by
  rcases event with ⟨state, operation⟩
  cases active with
  | advance nanos => exact .of_untouched exclusive (fun _ known => known) id
  | install installed => exact State.reseats_install keyed exclusive handle installed
  | installOrReplace installed sink peer =>
      apply State.reseats_installOrReplace keyed exclusive
      rintro rfl
      rw [List.getElem?_eq_none_iff]
      apply Nat.not_lt.mp
      intro known
      exact apart peer (.installed known)
  | remove identity => exact State.reseats_remove keyed exclusive handle identity
  | replaceAll handles => exact State.reseats_replaceAll keyed exclusive handle handles
  | removeAll => exact State.reseats_removeEach keyed exclusive handle _
  | packet bytes source =>
      apply State.reseats_takePacket exclusive
      intro sender claimed mapped
      exact apart source (.arrived claimed mapped)
  | create record => exact State.reseats_create exclusive link record
  | reload ipv4Pop loaded => exact State.reseats_reload keyed exclusive handle ipv4Pop loaded

theorem stages_of_isPassive (passive : event.operation.IsPassive) :
    event.stages link = [event.next link] := by
  rcases event with ⟨state, operation⟩
  cases operation with
  | common operation =>
      cases operation with
      | replaceAll handles => exact passive.elim
      | _ => rfl
  | _ => rfl

/-- An event that neither attaches a session nor takes its place away lets it rest. -/
theorem rests (keyed : event.state.Keyed) (exclusive : event.state.Exclusive)
    (indirect : ¬event.operation.Meddles) (apart : ∀ peer, ¬event.Attaches handle peer)
    (seated : ¬event.Unseats link handle) (known : event.state.channels[handle]? = some session) :
    ∃ rested, (event.next link).channels[handle]? = some rested ∧
      session.Rests event.state.clock rested := by
  rcases SessionOperation.isPassive_or_isActive indirect with passive | active
  · exact (SessionOperation.rests_apply link event.state passive).sessions handle session known
  · have reseats : event.state.Reseats handle (event.stages link) (event.next link) :=
      event.reseats keyed exclusive active apart
    by_cases mapped : handle ∈ event.state.registry.handles
    · refine ⟨session, reseats.kept session known ?_, .refl event.state.clock session⟩
      intro stage member
      by_contra absent
      exact seated ⟨mapped, stage, member, absent⟩
    · have unlinked := exclusive.unlinked known mapped
      exact ⟨session.close, reseats.lost session known (.inl unlinked), .of_unlinked unlinked⟩

theorem closed_of_unseats (keyed : event.state.Keyed) (exclusive : event.state.Exclusive)
    (indirect : ¬event.operation.Meddles) (apart : ∀ peer, ¬event.Attaches handle peer)
    (unseats : event.Unseats link handle)
    (known : event.state.channels[handle]? = some session) :
    (event.next link).channels[handle]? = some session.close := by
  rcases SessionOperation.isPassive_or_isActive indirect with passive | active
  · rcases unseats with ⟨mapped, stage, member, absent⟩
    rw [stages_of_isPassive passive, List.mem_singleton] at member
    have rests := SessionOperation.rests_apply link event.state passive
    rw [member, next, rests.registry] at absent
    exact absurd mapped absent
  · have reseats : event.state.Reseats handle (event.stages link) (event.next link) :=
      event.reseats keyed exclusive active apart
    exact reseats.lost session known (.inr unseats.2)

/-- A session that an event attaches has that peer afterwards, heard from at that moment. -/
theorem attached (link : LocalLink) (keyed : event.state.Keyed)
    (exclusive : event.state.Exclusive) (attaches : event.Attaches handle peer) :
    ∃ session after, event.state.channels[handle]? = some session ∧
      (event.next link).channels[handle]? = some after ∧
      session.Attached event.state.clock peer after := by
  cases attaches with
  | @installed state sink bound =>
      have known := List.getElem?_eq_getElem bound
      have installed := State.getElem?_installOrReplace keyed exclusive known sink peer
      exact ⟨state.channels[handle], _, known, installed, rfl, rfl, rfl⟩
  | @arrived state bytes identity claimed mapped =>
      rcases keyed identity handle mapped with ⟨session, known, -⟩
      have enough := State.length_of_claimedSender? claimed
      exact ⟨session, _, known, State.getElem?_takePacket_of_claimed _ _ claimed mapped known,
        session.attached_accept state.clock link.sink peer enough⟩

end Occurrence

end

end TunnelServer
