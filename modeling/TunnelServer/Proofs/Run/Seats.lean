import Mathlib.Data.List.Forall2
import TunnelServer.Proofs.Run.History

/-!
# Who sits where

The clock, the mapping and the profiles of the sessions go their way whatever the links of the
sessions are, and whatever is in the packets beyond the sender that they claim.  Two servers that
agree in the former go on to agree in them.
-/

namespace TunnelServer

variable {link : LocalLink} {event : Occurrence} {state one other : State Session} {handle : Handle}
variable {session : Session}

/-! ## The clock and the profiles -/

namespace State

theorem clock_onChannel {α : Type} {default : α} {act : Session → Session × α} :
    (state.onChannel handle default act).1.clock = state.clock := by
  simp only [onChannel]
  split <;> rfl

theorem profiles_onChannel {α : Type} {default : α} {act : Session → Session × α}
    (same : ∀ session, (act session).1.profile = session.profile) :
    (state.onChannel handle default act).1.profiles = state.profiles := by
  simp only [onChannel]
  split
  · rfl
  · rename_i session known
    exact profiles_set known (same session)

theorem clock_installOrReplace (handle : Handle) (sink : Sink) (peer : SocketAddress)
    (state : State Session) : (state.installOrReplace handle sink peer).1.clock = state.clock := by
  rw [fst_installOrReplace, clock_onChannel, clock_install]

theorem profiles_installOrReplace (handle : Handle) (sink : Sink) (peer : SocketAddress)
    (state : State Session) :
    (state.installOrReplace handle sink peer).1.profiles = state.profiles := by
  rw [fst_installOrReplace, profiles_onChannel, profiles_install]
  intro session
  exact (Session.attached_attach _ sink peer session).profile

theorem clock_reload (ipv4Pop : Ipv4Address) (loaded : Except DirectoryError (List TunnelRecord))
    (state : State Session) : (state.reload ipv4Pop loaded).1.clock = state.clock := by
  simp only [reload]
  split
  · rfl
  · exact clock_replaceAll _ _

theorem unknown_of_profiles (same : other.profiles = one.profiles)
    (unknown : one.channels[handle]? = none) : other.channels[handle]? = none := by
  have lengths := congrArg List.length same
  simp only [profiles, List.length_map] at lengths
  rw [List.getElem?_eq_none_iff] at unknown ⊢
  omega

theorem unlinked_of_reload (keyed : state.Keyed) (exclusive : state.Exclusive)
    {ipv4Pop : Ipv4Address} {loaded : Except DirectoryError (List TunnelRecord)}
    (unknown : state.channels[handle]? = none)
    (known : (state.reload ipv4Pop loaded).1.channels[handle]? = some session) :
    session.link = none := by
  cases loaded with
  | error error => cases unknown.symm.trans known
  | ok records =>
      let new := sessionsOf ipv4Pop state.clock records
      let extended : State Session := { state with channels := state.channels ++ new }
      let handles := List.range' state.channels.length new.length
      change (extended.replaceAll handles).1.channels[handle]? = some session at known
      have moves : Moves False (fun _ => True) state extended :=
        moves_addAll state new fun session => link_of_mem_sessionsOf
      cases found : extended.channels[handle]? with
      | none =>
          have still := unknown_of_profiles (profiles_replaceAll handles extended) found
          cases still.symm.trans known
      | some made =>
          have added : new[handle - state.channels.length]? = some made := by
            rw [← List.getElem?_append_right (List.getElem?_eq_none_iff.mp unknown)]
            exact found
          have unlinked := link_of_mem_sessionsOf (List.mem_of_getElem? added)
          have replaced :=
            reseats_replaceAll (keyed.moves moves) (exclusive.moves keyed moves) handle handles
          cases (replaced.lost made found (.inl unlinked)).symm.trans known
          rfl

end State

namespace Occurrence

/-- Only the passing of time moves the clock. -/
theorem clock_next (indirect : ¬event.operation.Meddles)
    (still : ∀ nanos, event.operation ≠ .common (.advance nanos)) :
    (event.next link).clock = event.state.clock := by
  rcases SessionOperation.isPassive_or_isActive indirect with passive | active
  · exact (SessionOperation.rests_apply link event.state passive).clock
  · rcases event with ⟨state, operation⟩
    cases active with
    | advance nanos => exact absurd rfl (still nanos)
    | install installed => exact State.clock_install installed state
    | installOrReplace installed sink peer =>
        exact State.clock_installOrReplace installed sink peer state
    | remove identity => exact State.clock_remove identity state
    | replaceAll handles => exact State.clock_replaceAll handles state
    | removeAll => exact State.clock_removeEach _ state
    | packet bytes source => exact (State.sameTunnels_takePacket link.sink bytes source state).clock
    | create record =>
        simp only [next, SessionOperation.apply]
        split <;> rfl
    | reload ipv4Pop loaded => exact State.clock_reload ipv4Pop loaded state

theorem now_le_next (indirect : ¬event.operation.Meddles) :
    event.state.clock.now ≤ (event.next link).clock.now := by
  by_cases advances : ∃ nanos, event.operation = .common (.advance nanos)
  · rcases advances with ⟨nanos, operation⟩
    simp only [next, operation, SessionOperation.apply, Operation.apply, Clock.advance]
    exact Nat.le_add_right _ _
  · have same : (event.next link).clock = event.state.clock :=
      clock_next indirect fun nanos operation => advances ⟨nanos, operation⟩
    exact Nat.le_of_eq (congrArg Clock.now same).symm

end Occurrence

/-- Whether an operation makes new sessions. -/
def SessionOperation.Makes : SessionOperation → Prop
  | .create _ => True
  | .reload _ _ => True
  | _ => False

namespace Occurrence

theorem profiles_next (indirect : ¬event.operation.Meddles) (unmaking : ¬event.operation.Makes) :
    (event.next link).profiles = event.state.profiles := by
  rcases SessionOperation.isPassive_or_isActive indirect with passive | active
  · exact (SessionOperation.rests_apply link event.state passive).sameTunnels.profiles
  · rcases event with ⟨state, operation⟩
    cases active with
    | advance nanos => rfl
    | install installed => exact State.profiles_install installed state
    | installOrReplace installed sink peer =>
        exact State.profiles_installOrReplace installed sink peer state
    | remove identity => exact State.profiles_remove identity state
    | replaceAll handles => exact State.profiles_replaceAll handles state
    | removeAll => exact State.profiles_removeEach _ state
    | packet bytes source =>
        exact (State.sameTunnels_takePacket link.sink bytes source state).profiles
    | create => exact absurd trivial unmaking
    | reload => exact absurd trivial unmaking

/-- A session that an event makes has no link yet. -/
theorem unlinked_of_new (keyed : event.state.Keyed) (exclusive : event.state.Exclusive)
    (indirect : ¬event.operation.Meddles) (unknown : event.state.channels[handle]? = none)
    (known : (event.next link).channels[handle]? = some session) : session.link = none := by
  by_cases makes : event.operation.Makes
  · rcases event with ⟨state, operation⟩
    have beyond := List.getElem?_eq_none_iff.mp unknown
    cases operation with
    | create record =>
        simp only [next, SessionOperation.apply] at known
        split at known
        · cases unknown.symm.trans known
        · rename_i made created
          change (state.channels ++ [made])[handle]? = some session at known
          rw [List.getElem?_append_right beyond] at known
          have same : session = made :=
            List.mem_singleton.mp (List.mem_of_getElem? known)
          rw [same]
          exact State.link_of_create created
    | reload ipv4Pop loaded => exact State.unlinked_of_reload keyed exclusive unknown known
    | _ => exact makes.elim
  · have same : (event.next link).profiles = event.state.profiles :=
      event.profiles_next indirect makes
    cases (State.unknown_of_profiles same unknown).symm.trans known

end Occurrence

/-! ## Servers that agree -/

namespace State

/-- Two servers have the same clock, the same mapping and sessions of the same profiles. -/
structure SameSeats (one other : State Session) : Prop where
  clock : other.clock = one.clock
  lookup : ∀ identity, other.registry.lookup identity = one.registry.lookup identity
  profiles : other.profiles = one.profiles

theorem lookup_install_eq (handle : Handle) (identity : Identity) (state : State Session) :
    (state.install handle).1.registry.lookup identity =
      if state.profiles[handle]?.map Profile.identity = some identity then some handle
      else state.registry.lookup identity := by
  cases known : state.channels[handle]? with
  | none =>
      rw [install_of_unknown known]
      simp [profiles, known]
  | some session =>
      rw [lookup_install known]
      apply if_congr _ rfl rfl
      simp [profiles, known, Session.identity, eq_comm]

namespace SameSeats

theorem symm (same : one.SameSeats other) : other.SameSeats one :=
  ⟨same.clock.symm, fun identity => (same.lookup identity).symm, same.profiles.symm⟩

theorem trans {last : State Session} (first : one.SameSeats other) (second : other.SameSeats last) :
    one.SameSeats last :=
  ⟨second.clock.trans first.clock,
    fun identity => (second.lookup identity).trans (first.lookup identity),
    second.profiles.trans first.profiles⟩

theorem of_sameTunnels (same : one.SameTunnels other) : one.SameSeats other :=
  ⟨same.clock, fun _ => by rw [same.registry], same.profiles⟩

theorem mem_handles_iff (same : one.SameSeats other) :
    handle ∈ other.registry.handles ↔ handle ∈ one.registry.handles := by
  simp only [Registry.mem_handles_iff, same.lookup]

theorem length (same : one.SameSeats other) : other.channels.length = one.channels.length := by
  have lengths := congrArg List.length same.profiles
  simpa only [State.profiles, List.length_map] using lengths

theorem identitiesOf (same : one.SameSeats other) (handles : List Handle) :
    other.identitiesOf handles = one.identitiesOf handles := by
  rw [identitiesOf_eq, identitiesOf_eq, same.profiles]

theorem install (same : one.SameSeats other) (installed : Handle) :
    (one.install installed).1.SameSeats (other.install installed).1 := by
  refine ⟨?_, ?_, ?_⟩
  · rw [clock_install, clock_install, same.clock]
  · intro identity
    rw [lookup_install_eq, lookup_install_eq, same.profiles, same.lookup]
  · rw [profiles_install, profiles_install, same.profiles]

theorem installEach (same : one.SameSeats other) (handles : List Handle) :
    (one.installEach handles).SameSeats (other.installEach handles) := by
  induction handles generalizing one other with
  | nil => exact same
  | cons installed rest hypothesis => exact hypothesis (same.install installed)

theorem installStages (same : one.SameSeats other) (handles : List Handle) :
    List.Forall₂ SameSeats (one.installStages handles) (other.installStages handles) := by
  induction handles generalizing one other with
  | nil => exact .nil
  | cons installed rest hypothesis =>
      have first := same.install installed
      exact .cons first (hypothesis first)

theorem replaceAll (same : one.SameSeats other) (handles : List Handle) :
    (one.replaceAll handles).1.SameSeats (other.replaceAll handles).1 := by
  refine ⟨?_, ?_, ?_⟩
  · rw [clock_replaceAll, clock_replaceAll, same.clock]
  · intro identity
    rw [lookup_replaceAll, lookup_replaceAll, same.identitiesOf, (same.installEach handles).lookup]
  · rw [profiles_replaceAll, profiles_replaceAll, same.profiles]

theorem reload (same : one.SameSeats other) (ipv4Pop : Ipv4Address)
    (loaded : Except DirectoryError (List TunnelRecord)) :
    (one.reload ipv4Pop loaded).1.SameSeats (other.reload ipv4Pop loaded).1 := by
  cases loaded with
  | error error => exact same
  | ok records =>
      have lengths := same.length
      simp only [State.reload, same.clock, lengths]
      apply SameSeats.replaceAll
      refine ⟨rfl, same.lookup, ?_⟩
      simp only [State.profiles, List.map_append]
      exact congrArg (· ++ _) same.profiles

theorem remove (same : one.SameSeats other) (identity : Identity) :
    (one.remove identity).1.SameSeats (other.remove identity).1 := by
  refine ⟨?_, ?_, ?_⟩
  · rw [clock_remove, clock_remove, same.clock]
  · intro found
    rw [lookup_remove, lookup_remove, same.lookup]
  · rw [profiles_remove, profiles_remove, same.profiles]

theorem removeAll (same : one.SameSeats other) : one.removeAll.1.SameSeats other.removeAll.1 := by
  refine ⟨?_, ?_, ?_⟩
  · simp only [State.removeAll, clock_removeEach, same.clock]
  · intro identity
    have member : identity ∈ other.registry.identities ↔ identity ∈ one.registry.identities := by
      simp only [Registry.mem_identities_iff, same.lookup]
    simp only [State.removeAll, lookup_removeEach, same.lookup]
    exact if_congr member rfl rfl
  · simp only [State.removeAll, profiles_removeEach, same.profiles]

theorem installOrReplace (same : one.SameSeats other) (installed : Handle) (sink : Sink)
    (peer : SocketAddress) :
    (one.installOrReplace installed sink peer).1.SameSeats
      (other.installOrReplace installed sink peer).1 := by
  refine ⟨?_, ?_, ?_⟩
  · rw [clock_installOrReplace, clock_installOrReplace, same.clock]
  · intro identity
    simp only [fst_installOrReplace, registry_onChannel, (same.install installed).lookup]
  · rw [profiles_installOrReplace, profiles_installOrReplace, same.profiles]

theorem create (same : one.SameSeats other) (link : LocalLink) (record : TunnelRecord) :
    ((SessionOperation.create record).apply link one).1.SameSeats
      ((SessionOperation.create record).apply link other).1 := by
  simp only [SessionOperation.apply, same.clock]
  split
  · exact same
  · refine ⟨same.clock, same.lookup, ?_⟩
    simp only [State.profiles, add, List.map_append, Prod.map_fst, id]
    exact congrArg (· ++ _) same.profiles

/-- What each of two servers that agree does by itself, they still agree after. -/
theorem of_both {after last : State Session} (same : one.SameSeats other)
    (first : one.SameTunnels after) (second : other.SameTunnels last) : after.SameSeats last :=
  ((of_sameTunnels first).symm.trans same).trans (of_sameTunnels second)

theorem next (same : one.SameSeats other) {operation : SessionOperation}
    (indirect : ¬operation.Meddles) :
    (operation.apply link one).1.SameSeats (operation.apply link other).1 := by
  rcases SessionOperation.isPassive_or_isActive indirect with passive | active
  · exact same.of_both (SessionOperation.rests_apply link one passive).sameTunnels
      (SessionOperation.rests_apply link other passive).sameTunnels
  · cases active with
    | advance nanos =>
        refine ⟨?_, same.lookup, same.profiles⟩
        simp only [SessionOperation.apply, Operation.apply, same.clock]
    | install installed => exact same.install installed
    | installOrReplace installed sink peer => exact same.installOrReplace installed sink peer
    | remove identity => exact same.remove identity
    | replaceAll handles => exact same.replaceAll handles
    | removeAll => exact same.removeAll
    | packet bytes source =>
        exact same.of_both (sameTunnels_takePacket link.sink bytes source one)
          (sameTunnels_takePacket link.sink bytes source other)
    | create record => exact same.create link record
    | reload ipv4Pop loaded => exact same.reload ipv4Pop loaded

end SameSeats

end State

/-! ## Histories that agree -/

namespace Occurrence

open State

variable {peer : SocketAddress} {operation : SessionOperation}

theorem Attaches.of_sameSeats (same : one.SameSeats other)
    (attaches : Attaches handle peer ⟨one, operation⟩) :
    Attaches handle peer ⟨other, operation⟩ := by
  cases attaches with
  | installed known =>
      apply Attaches.installed
      rw [same.length]
      exact known
  | arrived claimed mapped =>
      rw [← same.clock] at claimed
      rw [← same.lookup] at mapped
      exact .arrived claimed mapped

theorem Attaches.of_claims {packet replaced : Bytes} {source : SocketAddress}
    (claims : ∀ here, Packet.claimedSender? packet here = Packet.claimedSender? replaced here)
    (attaches : Attaches handle peer ⟨state, .common (.packet packet source)⟩) :
    Attaches handle peer ⟨state, .common (.packet replaced source)⟩ := by
  cases attaches with
  | arrived claimed mapped =>
      rw [claims] at claimed
      exact .arrived claimed mapped

theorem not_attaches_of_isPassive (passive : event.operation.IsPassive) (peer : SocketAddress) :
    ¬event.Attaches handle peer := by
  intro attaches
  cases attaches with
  | installed => exact passive.elim
  | arrived => exact passive.elim

theorem not_unseats_of_registry (stages : event.stages link = [event.next link])
    (registry : (event.next link).registry = event.state.registry) :
    ¬event.Unseats link handle := by
  rintro ⟨mapped, stage, member, absent⟩
  rw [stages, List.mem_singleton] at member
  rw [member, registry] at absent
  exact absent mapped

theorem not_unseats_of_isPassive (passive : event.operation.IsPassive) :
    ¬event.Unseats link handle :=
  not_unseats_of_registry (stages_of_isPassive passive)
    (SessionOperation.rests_apply link event.state passive).registry

theorem not_unseats_packet {packet : Bytes} {source : SocketAddress} :
    ¬Unseats link handle ⟨state, .common (.packet packet source)⟩ :=
  not_unseats_of_registry rfl (sameTunnels_takePacket link.sink packet source state).registry

theorem forall₂_stages (same : one.SameSeats other) (indirect : ¬operation.Meddles) :
    List.Forall₂ SameSeats (stages link ⟨one, operation⟩) (stages link ⟨other, operation⟩) := by
  have next : (Occurrence.next link ⟨one, operation⟩).SameSeats
      (Occurrence.next link ⟨other, operation⟩) := same.next indirect
  cases operation with
  | common operation =>
      cases operation with
      | replaceAll handles => exact List.rel_append (same.installStages handles) (.cons next .nil)
      | _ => exact .cons next .nil
  | _ => exact .cons next .nil

theorem unmapped_of_forall₂ {ones others : List (State Session)}
    (same : List.Forall₂ SameSeats ones others)
    (unmapped : ∃ stage ∈ ones, handle ∉ stage.registry.handles) :
    ∃ stage ∈ others, handle ∉ stage.registry.handles := by
  induction same with
  | nil => exact unmapped
  | cons first rest hypothesis =>
      simp only [List.mem_cons, exists_eq_or_imp] at unmapped ⊢
      rcases unmapped with absent | later
      · rw [← first.mem_handles_iff] at absent
        exact .inl absent
      · exact .inr (hypothesis later)

theorem Unseats.of_sameSeats (same : one.SameSeats other) (indirect : ¬operation.Meddles)
    (unseats : Unseats link handle ⟨one, operation⟩) : Unseats link handle ⟨other, operation⟩ := by
  rcases unseats with ⟨mapped, unmapped⟩
  rw [← same.mem_handles_iff] at mapped
  exact ⟨mapped, unmapped_of_forall₂ (forall₂_stages same indirect) unmapped⟩

end Occurrence

namespace AttachedLast

variable {peer : SocketAddress} {time : Instant} {earlier : List Occurrence}

theorem cons_iff_of_isPassive (passive : event.operation.IsPassive) :
    AttachedLast link handle peer time (event :: earlier) ↔
      AttachedLast link handle peer time earlier := by
  constructor
  · intro latest
    cases latest with
    | now attaches => exact absurd attaches (Occurrence.not_attaches_of_isPassive passive peer)
    | before _ _ latest => exact latest
  · intro latest
    exact .before (Occurrence.not_attaches_of_isPassive passive)
      (Occurrence.not_unseats_of_isPassive passive) latest

theorem cons_of_same {first second : Occurrence} {others : List Occurrence}
    (attaches : ∀ peer, first.Attaches handle peer ↔ second.Attaches handle peer)
    (unseats : first.Unseats link handle ↔ second.Unseats link handle)
    (moment : second.state.clock = first.state.clock)
    (rest : AttachedLast link handle peer time earlier → AttachedLast link handle peer time others)
    (latest : AttachedLast link handle peer time (first :: earlier)) :
    AttachedLast link handle peer time (second :: others) := by
  cases latest with
  | now attached now =>
      rw [← moment] at now
      exact .now ((attaches peer).mp attached) now
  | before apart seated latest =>
      refine .before ?_ ?_ (rest latest)
      · intro other attached
        exact apart other ((attaches other).mpr attached)
      · intro unseated
        exact seated (unseats.mpr unseated)

theorem cons_iff_of_same {first second : Occurrence} {others : List Occurrence}
    (attaches : ∀ peer, first.Attaches handle peer ↔ second.Attaches handle peer)
    (unseats : first.Unseats link handle ↔ second.Unseats link handle)
    (moment : second.state.clock = first.state.clock)
    (rest : AttachedLast link handle peer time earlier ↔
      AttachedLast link handle peer time others) :
    AttachedLast link handle peer time (first :: earlier) ↔
      AttachedLast link handle peer time (second :: others) := by
  constructor
  · exact cons_of_same attaches unseats moment rest.mp
  · exact cons_of_same (fun peer => (attaches peer).symm) unseats.symm moment.symm rest.mpr

end AttachedLast

/-- Two runs, the latest operation first, differ only in operations that tell nothing of peers and in
the packets, which claim to come from the same senders all the same. -/
inductive SessionOperation.AgreeOnPeers :
    List SessionOperation → List SessionOperation → Prop where
  | nil : AgreeOnPeers [] []
  | both {ones others : List SessionOperation} (operation : SessionOperation)
      (earlier : AgreeOnPeers ones others) :
      AgreeOnPeers (operation :: ones) (operation :: others)
  | packets {ones others : List SessionOperation} {packet replaced : Bytes} (source : SocketAddress)
      (claims : ∀ here, Packet.claimedSender? packet here = Packet.claimedSender? replaced here)
      (earlier : AgreeOnPeers ones others) :
      AgreeOnPeers (.common (.packet packet source) :: ones)
        (.common (.packet replaced source) :: others)
  | first {ones others : List SessionOperation} {operation : SessionOperation}
      (passive : operation.IsPassive) (earlier : AgreeOnPeers ones others) :
      AgreeOnPeers (operation :: ones) others
  | second {ones others : List SessionOperation} {operation : SessionOperation}
      (passive : operation.IsPassive) (earlier : AgreeOnPeers ones others) :
      AgreeOnPeers ones (operation :: others)

end TunnelServer
