import TunnelServer.Proofs.Independence
import TunnelServer.Proofs.Run.Replacement

/-!
# Replacing the whole mapping at once

A replacement takes sessions in any order and any number of times, sessions that are mapped already,
sessions that lost their place earlier and new ones.  Afterwards each identity that occurs among them
is mapped to the last of them that has it, and no other identity is mapped.  A session that was mapped,
or was given and lost its place to a later one, has no link; one that keeps its place throughout is not
touched.  The mapping is never seen without an identity that it had before and has afterwards.
-/

namespace TunnelServer

namespace State

variable {state before after : State Session} {handle installed : Handle} {session : Session}
variable {identity : Identity} {handles : List Handle} {identities : List Identity}

/-! ## Sessions that lose their place -/

/-- A session is mapped, or else it has no link. -/
def Settled (handle : Handle) (state : State Session) : Prop :=
  handle ∈ state.registry.handles ∨
    ∀ session, state.channels[handle]? = some session → session.link = none

theorem Settled.of_yields (settled : before.Settled handle)
    (yields : Yields handle before after) : after.Settled handle := by
  rcases yields.fate with ⟨same, kept⟩ | ⟨-, closed⟩
  · rcases settled with mapped | unlinked
    · exact .inl (kept mapped)
    · right
      intro session known
      exact unlinked session (same.symm.trans known)
  · right
    intro session known
    rw [closed, Option.map_eq_some_iff] at known
    rcases known with ⟨earlier, -, rfl⟩
    rfl

theorem settled_install (handle : Handle) (state : State Session) :
    (state.install handle).1.Settled handle := by
  cases known : state.channels[handle]? with
  | none =>
      right
      intro session there
      rw [install_of_unknown known, known] at there
      cases there
  | some session =>
      left
      apply Registry.mem_handles_iff.mpr
      refine ⟨session.identity, ?_⟩
      rw [lookup_install known, if_pos rfl]

theorem Settled.installEach (settled : state.Settled handle) (handles : List Handle) :
    (state.installEach handles).Settled handle := by
  refine List.foldlRecOn handles _ settled ?_
  intro between settled installed _
  by_cases same : handle = installed
  · rw [← same]
    exact settled_install handle between
  · exact settled.of_yields (yields_install same between)

theorem Settled.removeEach (settled : state.Settled handle) (identities : List Identity) :
    (state.removeEach identities).Settled handle := by
  refine List.foldlRecOn identities _ settled ?_
  intro between settled identity _
  exact settled.of_yields (yields_remove handle identity between)

theorem settled_replaceAll (there : handle ∈ state.registry.handles ∨ handle ∈ handles) :
    (state.replaceAll handles).1.Settled handle := by
  apply Settled.removeEach
  rcases there with mapped | given
  · exact Settled.installEach (.inl mapped) handles
  · rcases List.append_of_mem given with ⟨earlier, later, rfl⟩
    simp only [State.installEach, List.foldl_append, List.foldl_cons]
    exact (settled_install handle _).installEach later

/-! ## Sessions that keep their place -/

/-- The session is the one that its identity is mapped to, and no identity is mapped amiss. -/
structure Seated (handle : Handle) (session : Session) (state : State Session) : Prop where
  keyed : state.Keyed
  known : state.channels[handle]? = some session
  mapped : state.registry.lookup session.identity = some handle

namespace Seated

theorem install (seated : state.Seated handle session)
    (alone : ∀ rival, state.channels[installed]? = some rival →
      rival.identity = session.identity → installed = handle) :
    (state.install installed).1.Seated handle session := by
  have moves : Moves False (fun _ => True) state (state.install installed).1 :=
    moves_install trivial state
  refine ⟨seated.keyed.moves moves, ?_, ?_⟩
  · cases there : state.channels[installed]? with
    | none =>
        rw [install_of_unknown there]
        exact seated.known
    | some rival =>
        rcases install_cases there with ⟨-, result⟩ | ⟨previous, found, different, result⟩
        · rw [result]
          exact seated.known
        · rw [result]
          apply (getElem?_close_of_ne _).trans seated.known
          -- If it were the session itself, the one that is mapped now would be its only rival.
          rintro rfl
          have same := seated.keyed.injective found seated.mapped
          exact different (alone rival there same).symm
  · cases there : state.channels[installed]? with
    | none =>
        rw [install_of_unknown there]
        exact seated.mapped
    | some rival =>
        rw [lookup_install there]
        split
        · rename_i same
          rw [alone rival there same.symm]
        · exact seated.mapped

theorem remove (seated : state.Seated handle session) (other : identity ≠ session.identity) :
    (state.remove identity).1.Seated handle session := by
  have moves : Moves False (fun _ => True) state (state.remove identity).1 :=
    moves_remove identity state
  refine ⟨seated.keyed.moves moves, ?_, ?_⟩
  · simp only [State.remove]
    split
    · exact seated.known
    · rename_i removed found
      rw [close_mapping]
      apply (getElem?_close_of_ne _).trans seated.known
      rintro rfl
      exact other (seated.keyed.injective found seated.mapped)
  · rw [lookup_remove, if_neg (Ne.symm other)]
    exact seated.mapped

theorem installEach (seated : state.Seated handle session)
    (alone : ∀ installed ∈ handles, ∀ rival, state.channels[installed]? = some rival →
      rival.identity = session.identity → installed = handle) :
    (state.installEach handles).Seated handle session := by
  induction handles generalizing state with
  | nil => exact seated
  | cons installed rest hypothesis =>
      have next := seated.install (alone installed List.mem_cons_self)
      apply hypothesis next
      intro later among rival there same
      -- Sessions are told apart by their profiles, which no step changes.
      have profile : state.profiles[later]? = some rival.profile := by
        rw [← profiles_install installed, profiles, List.getElem?_map, there, Option.map_some]
      rw [profiles, List.getElem?_map, Option.map_eq_some_iff] at profile
      rcases profile with ⟨earlier, found, sameProfile⟩
      apply alone later (List.mem_cons_of_mem _ among) earlier found
      rw [← same]
      exact congrArg Profile.identity sameProfile

theorem removeEach (seated : state.Seated handle session)
    (others : session.identity ∉ identities) :
    (state.removeEach identities).Seated handle session := by
  refine List.foldlRecOn identities _ seated ?_
  intro between seated identity among
  apply seated.remove
  rintro rfl
  exact others among

end Seated

/-! ## On the way -/

/-- The states that a server goes through while its mapping is replaced.  The given sessions are mapped
one after the other; then identities that none of them has are unmapped, in any order. -/
inductive Underway (handles : List Handle) (state : State Session) : State Session → Prop where
  | installing {earlier later : List Handle} (parts : handles = earlier ++ later) :
      Underway handles state (state.installEach earlier)
  | removing {gone : List Identity}
      (stale : ∀ identity ∈ gone, identity ∉ state.identitiesOf handles) :
      Underway handles state ((state.installEach handles).removeEach gone)

theorem underway_replaceAll (handles : List Handle) (state : State Session) :
    Underway handles state (state.replaceAll handles).1 := by
  apply Underway.removing
  intro identity stale
  simpa using (List.mem_filter.mp stale).2

theorem Underway.moves {between : State Session} (underway : Underway handles state between) :
    Moves False (fun _ => True) state between := by
  cases underway with
  | installing => exact moves_installEach (fun _ _ => trivial) state
  | removing =>
      exact (moves_installEach (fun _ _ => trivial) state).trans (moves_removeEach _ _)

/-- What was mapped before and is given stays mapped throughout. -/
theorem Underway.exists_lookup {between : State Session}
    (underway : Underway handles state between)
    (mapped : ∃ handle, state.registry.lookup identity = some handle)
    (given : identity ∈ state.identitiesOf handles) :
    ∃ handle, between.registry.lookup identity = some handle := by
  cases underway with
  | @installing earlier _ parts =>
      by_cases already : identity ∈ state.identitiesOf earlier
      · rcases exists_lookup_installEach already with ⟨handle, -, found⟩
        exact ⟨handle, found⟩
      · rw [lookup_installEach_of_not_mem already]
        exact mapped
  | @removing gone stale =>
      rcases exists_lookup_installEach given with ⟨handle, -, found⟩
      refine ⟨handle, ?_⟩
      rw [lookup_removeEach, if_neg, found]
      intro among
      exact stale identity among given

/-! ## The whole replacement -/

/-- What a replacement by the given sessions makes of a server. -/
structure Replacement (handles : List Handle) (before after : State Session) : Prop where
  /-- The identities of the given sessions are mapped, and no others. -/
  mapped : ∀ identity, (∃ handle, after.registry.lookup identity = some handle) ↔
    identity ∈ before.identitiesOf handles
  /-- Of the given sessions with one identity the last is mapped to it. -/
  last : ∀ earlier handle later session, handles = earlier ++ handle :: later →
    before.channels[handle]? = some session →
    session.identity ∉ before.identitiesOf later →
      after.registry.lookup session.identity = some handle
  /-- A session that loses its place, old or given, is closed. -/
  closed : ∀ handle session, handle ∈ before.registry.handles ∨ handle ∈ handles →
    handle ∉ after.registry.handles → after.channels[handle]? = some session →
      session.peer? = none
  /-- A session that keeps its place, and is given no rival, stays as it is. -/
  kept : ∀ handle session, before.channels[handle]? = some session →
    handle ∈ before.registry.handles → handle ∈ after.registry.handles →
    (∀ rival ∈ handles, ∀ other, before.channels[rival]? = some other →
      other.identity = session.identity → rival = handle) →
        after.channels[handle]? = some session
  /-- An identity that was mapped and is mapped again can be looked up all the while. -/
  resolves : ∀ between, Underway handles before between →
    ∀ identity ∈ before.identitiesOf handles,
      (∃ handle, before.registry.lookup identity = some handle) →
        ∃ handle session, between.find? identity = some (handle, session)

theorem kept_replaceAll (keyed : state.Keyed) (known : state.channels[handle]? = some session)
    (mapped : handle ∈ state.registry.handles)
    (mappedAfter : handle ∈ (state.replaceAll handles).1.registry.handles)
    (alone : ∀ rival ∈ handles, ∀ other, state.channels[rival]? = some other →
      other.identity = session.identity → rival = handle) :
    (state.replaceAll handles).1.channels[handle]? = some session := by
  rcases Registry.mem_handles_iff.mp mapped with ⟨identity, found⟩
  rcases keyed identity handle found with ⟨owner, there, rfl⟩
  cases known.symm.trans there
  have given : handle ∈ handles := by
    rcases Registry.mem_handles_iff.mp mappedAfter with ⟨other, foundAfter⟩
    exact mem_of_lookup_replaceAll foundAfter
  have seated : state.Seated handle session := ⟨keyed, known, found⟩
  apply Seated.known
  apply (seated.installEach alone).removeEach
  intro stale
  have among : session.identity ∈ state.identitiesOf handles :=
    mem_identitiesOf_iff.mpr ⟨handle, given, session, known, rfl⟩
  simp [among] at stale

theorem replacement_replaceAll (keyed : state.Keyed) (handles : List Handle) :
    Replacement handles state (state.replaceAll handles).1 where
  mapped := by
    intro identity
    exact exists_lookup_replaceAll_iff handles identity state
  last := by
    rintro earlier handle later session rfl known last
    exact lookup_replaceAll_last known last
  closed := by
    intro handle session there unmapped known
    have unlinked := (settled_replaceAll there).resolve_left unmapped session known
    rw [Session.peer?, unlinked, Option.map_none]
  kept := by
    intro handle session known mapped mappedAfter alone
    exact kept_replaceAll keyed known mapped mappedAfter alone
  resolves := by
    intro between underway identity given mapped
    rcases underway.exists_lookup mapped given with ⟨handle, found⟩
    rcases keyed.moves underway.moves identity handle found with ⟨session, known, -⟩
    exact ⟨handle, session, find?_eq_some_iff.mpr ⟨found, known⟩⟩

end State

/-- In every state that can be reached a replacement by any sessions maps exactly their identities, each
to the last session given for it, closes whatever loses its place and leaves alone whatever keeps it
without a rival; an identity that is mapped before and after can be looked up at every step on the way.
The number that it gives is how many identities were given, and how many are mapped. -/
theorem replaceAll_maps_last_given {link : LocalLink} {permitted : SessionOperation → Prop}
    {state : State Session} (reachable : Reachable link permitted state)
    (handles : List Handle) :
    let after := (state.replaceAll handles).1
    State.Replacement handles state after ∧ State.Underway handles state after ∧
      (state.replaceAll handles).2 = (state.identitiesOf handles).toFinset.card ∧
      (state.replaceAll handles).2 = after.registry.size := by
  intro after
  refine ⟨State.replacement_replaceAll reachable.keyed handles,
    State.underway_replaceAll handles state, State.snd_replaceAll handles state, ?_⟩
  rw [State.snd_replaceAll, State.size_replaceAll]

namespace Sample

/-- A server with two sessions of one tunnel and one of another.  The first and the last of them are
connected. -/
def twins : State Session :=
  (SessionOperation.run localLink empty
    [.create record, .create record, .create neighbour,
      .common (.installOrReplace 0 "local" (.v4 Ipv4Address.unspecified 5072)),
      .common (.installOrReplace 2 "local" (.v4 Ipv4Address.loopback 5072))]).1

end Sample

/-- Of two sessions of one tunnel that are given the later is mapped, though the other one was mapped
and connected and is given twice; it is closed.  The neighbour stays connected. -/
theorem replaceAll_maps_last_twin :
    let after := (Sample.twins.replaceAll [0, 2, 0, 1]).1
    Reachable Sample.localLink (fun _ => True) Sample.twins ∧
      State.Replacement [0, 2, 0, 1] Sample.twins after ∧
      (Sample.twins.replaceAll [0, 2, 0, 1]).2 = after.registry.size ∧
      Sample.twins.registry.lookup Sample.identity = some 0 ∧
      after.registry.lookup Sample.identity = some 1 ∧
      after.channels.map Session.peer? =
        [none, none, some (.v4 Ipv4Address.loopback 5072)] := by
  intro after
  have start : Reachable Sample.localLink (fun _ => True) Sample.empty :=
    ⟨Sample.empty.clock, .start⟩
  have reachable : Reachable Sample.localLink (fun _ => True) Sample.twins :=
    start.run _ fun _ _ => trivial
  rcases replaceAll_maps_last_given reachable [0, 2, 0, 1] with ⟨replacement, -, -, size⟩
  exact ⟨reachable, replacement, size, rfl, rfl, rfl⟩

end TunnelServer
