import Mathlib.Tactic.ByContra
import TunnelServer.Proofs.Routing
import TunnelServer.Proofs.Run.Reachable

/-!
# What registration does

Mapping and unmapping sessions changes what a lookup finds, and it closes sessions that lose their
place in the mapping.  A session that is mapped all the while, from one stage of a replacement to the
next, stays just as it is; one that is not mapped at some stage has no link in the end.
-/

namespace TunnelServer

namespace State

variable {state before between after : State Session} {handle previous : Handle}
variable {session : Session} {identity other : Identity} {stages : List (State Session)}

/-! ## What a lookup finds -/

theorem install_of_unknown (unknown : state.channels[handle]? = none) :
    state.install handle = (state, none) := by
  simp only [install]
  rw [unknown]

theorem lookup_install (known : state.channels[handle]? = some session) (other : Identity) :
    (state.install handle).1.registry.lookup other =
      if other = session.identity then some handle else state.registry.lookup other := by
  rw [registry_install known, Registry.lookup_insert]

theorem lookup_remove (identity other : Identity) (state : State Session) :
    (state.remove identity).1.registry.lookup other =
      if other = identity then none else state.registry.lookup other := by
  simp only [remove]
  split
  · rename_i absent
    split
    · rename_i same
      rw [same, absent]
    · rfl
  · rw [close_mapping, Registry.lookup_erase]

theorem lookup_removeEach (identities : List Identity) (other : Identity) (state : State Session) :
    (state.removeEach identities).registry.lookup other =
      if other ∈ identities then none else state.registry.lookup other := by
  simp only [removeEach]
  induction identities generalizing state with
  | nil => simp
  | cons identity rest hypothesis =>
      rw [List.foldl_cons, hypothesis, lookup_remove]
      by_cases later : other ∈ rest
      · simp [later]
      · by_cases same : other = identity
        · simp [same]
        · simp [same, later]

theorem profiles_close (handle : Handle) (state : State Session) :
    (state.close handle).profiles = state.profiles := by
  cases known : state.channels[handle]? with
  | none => rw [close_of_none known]
  | some session =>
      rw [close_of_getElem? known]
      exact profiles_set known rfl

theorem clock_close (handle : Handle) (state : State Session) :
    (state.close handle).clock = state.clock := by
  simp only [close, onChannel]
  split <;> rfl

theorem clock_install (handle : Handle) (state : State Session) :
    (state.install handle).1.clock = state.clock := by
  simp only [install]
  split
  · rfl
  · split
    · rfl
    · split
      · rfl
      · exact clock_close _ _

theorem clock_remove (identity : Identity) (state : State Session) :
    (state.remove identity).1.clock = state.clock := by
  simp only [remove]
  split
  · rfl
  · exact clock_close _ _

theorem profiles_install (handle : Handle) (state : State Session) :
    (state.install handle).1.profiles = state.profiles := by
  simp only [install]
  split
  · rfl
  · split
    · rfl
    · split
      · rfl
      · exact profiles_close _ _

theorem profiles_remove (identity : Identity) (state : State Session) :
    (state.remove identity).1.profiles = state.profiles := by
  simp only [remove]
  split
  · rfl
  · exact profiles_close _ _

theorem view_foldl {α β : Type} (view : State Session → β) (step : State Session → α → State Session)
    (same : ∀ state item, view (step state item) = view state) (items : List α)
    (state : State Session) : view (items.foldl step state) = view state := by
  induction items generalizing state with
  | nil => rfl
  | cons item rest hypothesis => exact (hypothesis (step state item)).trans (same state item)

theorem clock_installEach (handles : List Handle) (state : State Session) :
    (state.installEach handles).clock = state.clock :=
  view_foldl State.clock _ (fun state handle => clock_install handle state) handles state

theorem profiles_installEach (handles : List Handle) (state : State Session) :
    (state.installEach handles).profiles = state.profiles :=
  view_foldl profiles _ (fun state handle => profiles_install handle state) handles state

theorem clock_removeEach (identities : List Identity) (state : State Session) :
    (state.removeEach identities).clock = state.clock :=
  view_foldl State.clock _ (fun state identity => clock_remove identity state) identities state

theorem profiles_removeEach (identities : List Identity) (state : State Session) :
    (state.removeEach identities).profiles = state.profiles :=
  view_foldl profiles _ (fun state identity => profiles_remove identity state) identities state

theorem clock_replaceAll (handles : List Handle) (state : State Session) :
    (state.replaceAll handles).1.clock = state.clock :=
  (clock_removeEach _ _).trans (clock_installEach handles state)

theorem profiles_replaceAll (handles : List Handle) (state : State Session) :
    (state.replaceAll handles).1.profiles = state.profiles :=
  (profiles_removeEach _ _).trans (profiles_installEach handles state)

/-! ## What becomes of a session -/

/-- A step goes through some stages of the mapping.  A session that is mapped at all of them stays as
it is; if it is not mapped at some, or has no link to begin with, it is as if closed. -/
structure Reseats (handle : Handle) (stages : List (State Session)) (before after : State Session) :
    Prop where
  kept : ∀ session, before.channels[handle]? = some session →
    (∀ stage ∈ stages, handle ∈ stage.registry.handles) → after.channels[handle]? = some session
  lost : ∀ session : Session, before.channels[handle]? = some session →
    (session.link = none ∨ ∃ stage ∈ stages, handle ∉ stage.registry.handles) →
      after.channels[handle]? = some session.close

theorem Exclusive.unlinked (exclusive : state.Exclusive)
    (known : state.channels[handle]? = some session) (unmapped : handle ∉ state.registry.handles) :
    session.link = none := by
  rw [← Option.not_isSome_iff_eq_none]
  intro linked
  exact unmapped (Registry.mem_handles_iff.mpr ⟨_, exclusive handle session known linked⟩)

theorem Keyed.injective (keyed : state.Keyed) (one : state.registry.lookup identity = some handle)
    (two : state.registry.lookup other = some handle) : identity = other := by
  rcases keyed identity handle one with ⟨first, known, identified⟩
  rcases keyed other handle two with ⟨second, there, again⟩
  cases known.symm.trans there
  exact identified.symm.trans again

namespace Reseats

theorem trans {later : List (State Session)} (first : Reseats handle stages before between)
    (second : Reseats handle later between after) :
    Reseats handle (stages ++ later) before after := by
  constructor
  · intro session known mapped
    refine second.kept session (first.kept session known ?_) ?_
    · intro stage member
      exact mapped stage (List.mem_append_left later member)
    · intro stage member
      exact mapped stage (List.mem_append_right stages member)
  · intro session known gone
    by_cases early : session.link = none ∨ ∃ stage ∈ stages, handle ∉ stage.registry.handles
    · exact second.lost session.close (first.lost session known early) (.inl rfl)
    · rcases not_or.mp early with ⟨linked, mapped⟩
      have held : ∀ stage ∈ stages, handle ∈ stage.registry.handles := by
        intro stage member
        by_contra absent
        exact mapped ⟨stage, member, absent⟩
      refine second.lost session (first.kept session known held) (.inr ?_)
      rcases gone with unlinked | ⟨stage, member, absent⟩
      · exact absurd unlinked linked
      · rcases List.mem_append.mp member with inFirst | inSecond
        · exact absurd (held stage inFirst) absent
        · exact ⟨stage, inSecond, absent⟩

theorem of_untouched (exclusive : before.Exclusive)
    (untouched : ∀ session, before.channels[handle]? = some session →
      after.channels[handle]? = some session)
    (mapped : handle ∈ before.registry.handles → handle ∈ after.registry.handles) :
    Reseats handle [after] before after := by
  constructor
  · intro session known _
    exact untouched session known
  · intro session known gone
    have unlinked : session.link = none := by
      rcases gone with unlinked | ⟨stage, member, absent⟩
      · exact unlinked
      · rw [List.mem_singleton] at member
        subst member
        exact exclusive.unlinked known fun member => absent (mapped member)
    rw [Session.close_of_unlinked unlinked]
    exact untouched session known

theorem of_same {other : State Session} (reseats : Reseats handle [after] before after)
    (channel : other.channels[handle]? = after.channels[handle]?)
    (registry : other.registry = after.registry) : Reseats handle [other] before other := by
  constructor
  · intro session known mapped
    simp only [List.forall_mem_singleton, registry] at mapped
    rw [channel]
    exact reseats.kept session known (by simpa using mapped)
  · intro session known gone
    simp only [List.mem_singleton, exists_eq_left, registry] at gone
    rw [channel]
    exact reseats.lost session known (by simpa using gone)

theorem of_closed {registry : Registry} (unmapped : handle ∉ registry.handles) :
    Reseats handle [{ state.close handle with registry := registry }] state
      { state.close handle with registry := registry } := by
  constructor
  · intro session known mapped
    exact absurd (mapped _ List.mem_cons_self) unmapped
  · intro session known _
    rcases List.getElem?_eq_some_iff.mp known with ⟨bound, -⟩
    simp [close_of_getElem? known, bound]

end Reseats

/-! ## The operations -/

theorem install_cases (known : state.channels[handle]? = some session) :
    ((∀ previous, state.registry.lookup session.identity = some previous → previous = handle) ∧
        (state.install handle).1 =
          { state with registry := state.registry.insert session.identity handle }) ∨
      ∃ previous, state.registry.lookup session.identity = some previous ∧ previous ≠ handle ∧
        (state.install handle).1 =
          { state.close previous with
            registry := state.registry.insert session.identity handle } := by
  simp only [install]
  rw [known]
  dsimp only
  split
  · rename_i vacant
    refine .inl ⟨?_, rfl⟩
    intro previous mapped
    cases vacant.symm.trans mapped
  · rename_i previous mapped
    split
    · rename_i same
      refine .inl ⟨?_, rfl⟩
      intro other found
      cases Option.some.inj (mapped.symm.trans found)
      exact same
    · rename_i different
      rw [close_mapping]
      exact .inr ⟨previous, mapped, different, rfl⟩

/-- Mapping a session takes the place of no session but the one mapped to its identity before. -/
theorem mem_handles_insert_of_mem {registry : Registry} {taker : Handle}
    (member : handle ∈ registry.handles)
    (undisplaced : registry.lookup identity = some handle → handle = taker) :
    handle ∈ (registry.insert identity taker).handles := by
  rcases Registry.mem_handles_iff.mp member with ⟨owned, found⟩
  rw [Registry.mem_handles_iff]
  by_cases same : owned = identity
  · rw [same] at found
    exact ⟨identity, by rw [Registry.lookup_insert, if_pos rfl, undisplaced found]⟩
  · exact ⟨owned, by rw [Registry.lookup_insert, if_neg same, found]⟩

theorem reseats_install (keyed : state.Keyed) (exclusive : state.Exclusive)
    (handle installed : Handle) :
    Reseats handle [(state.install installed).1] state (state.install installed).1 := by
  cases known : state.channels[installed]? with
  | none =>
      rw [install_of_unknown known]
      exact .of_untouched exclusive (fun _ known => known) id
  | some session =>
      rcases install_cases known with ⟨vacant, result⟩ | ⟨previous, mapped, different, result⟩
      · rw [result]
        refine .of_untouched exclusive (fun _ known => known) ?_
        intro member
        exact mem_handles_insert_of_mem member (vacant handle)
      · rw [result]
        by_cases displaced : handle = previous
        · subst displaced
          apply Reseats.of_closed
          intro member
          rcases Registry.mem_handles_iff.mp member with ⟨identity, found⟩
          rw [Registry.lookup_insert] at found
          split at found
          · exact different (Option.some.inj found).symm
          · rename_i apart
            exact apart (keyed.injective found mapped)
        · refine .of_untouched exclusive
            (fun _ => (getElem?_close_of_ne (Ne.symm displaced)).trans) ?_
          intro member
          apply mem_handles_insert_of_mem member
          intro found
          exact absurd (Option.some.inj (found.symm.trans mapped)) displaced

theorem reseats_remove (keyed : state.Keyed) (exclusive : state.Exclusive) (handle : Handle)
    (identity : Identity) :
    Reseats handle [(state.remove identity).1] state (state.remove identity).1 := by
  simp only [remove]
  split
  · exact .of_untouched exclusive (fun _ known => known) id
  · rename_i removed mapped
    rw [close_mapping]
    by_cases same : handle = removed
    · subst same
      apply Reseats.of_closed
      intro member
      rcases Registry.mem_handles_iff.mp member with ⟨other, found⟩
      rw [Registry.lookup_erase] at found
      split at found
      · cases found
      · rename_i different
        exact different (keyed.injective found mapped)
    · refine .of_untouched exclusive (fun _ => (getElem?_close_of_ne (Ne.symm same)).trans) ?_
      intro member
      rcases Registry.mem_handles_iff.mp member with ⟨other, found⟩
      refine Registry.mem_handles_iff.mpr ⟨other, ?_⟩
      rw [Registry.lookup_erase, if_neg, found]
      rintro rfl
      exact same (Option.some.inj (found.symm.trans mapped))

/-- The states that a server goes through as it maps one session after the other. -/
def installStages : List Handle → State Session → List (State Session)
  | [], _ => []
  | handle :: rest, state =>
    (state.install handle).1 :: installStages rest (state.install handle).1

theorem reseats_installEach (keyed : state.Keyed) (exclusive : state.Exclusive) (handle : Handle)
    (handles : List Handle) :
    Reseats handle (installStages handles state) state (state.installEach handles) := by
  induction handles generalizing state with
  | nil =>
      refine ⟨fun _ known _ => known, ?_⟩
      rintro session known (unlinked | ⟨stage, member, -⟩)
      · rw [Session.close_of_unlinked unlinked]
        exact known
      · cases member
  | cons installed rest hypothesis =>
      have moves : Moves False (fun _ => True) state (state.install installed).1 :=
        moves_install trivial state
      exact (reseats_install keyed exclusive handle installed).trans
        (hypothesis (keyed.moves moves) (exclusive.moves keyed moves))

theorem mem_handles_of_removeEach {identities : List Identity}
    (member : handle ∈ (state.removeEach identities).registry.handles) :
    handle ∈ state.registry.handles := by
  rcases Registry.mem_handles_iff.mp member with ⟨identity, found⟩
  rw [lookup_removeEach] at found
  split at found
  · cases found
  · exact Registry.mem_handles_iff.mpr ⟨identity, found⟩

theorem reseats_removeEach (keyed : state.Keyed) (exclusive : state.Exclusive) (handle : Handle)
    (identities : List Identity) :
    Reseats handle [state.removeEach identities] state (state.removeEach identities) := by
  induction identities generalizing state with
  | nil => exact .of_untouched exclusive (fun _ known => known) id
  | cons identity rest hypothesis =>
      have moves : Moves False (fun _ => True) state (state.remove identity).1 :=
        moves_remove identity state
      have both := (reseats_remove keyed exclusive handle identity).trans
        (hypothesis (keyed.moves moves) (exclusive.moves keyed moves))
      constructor
      · intro session known mapped
        apply both.kept session known
        -- What is mapped in the end was mapped after the first step.
        have last := mapped _ List.mem_cons_self
        simp only [List.singleton_append, List.forall_mem_cons, List.not_mem_nil, false_imp_iff,
          implies_true, and_true]
        exact ⟨mem_handles_of_removeEach last, last⟩
      · intro session known gone
        apply both.lost session known
        rcases gone with unlinked | ⟨stage, member, absent⟩
        · exact .inl unlinked
        · exact .inr ⟨stage, List.mem_append_right _ member, absent⟩

theorem reseats_replaceAll (keyed : state.Keyed) (exclusive : state.Exclusive) (handle : Handle)
    (handles : List Handle) :
    Reseats handle (installStages handles state ++ [(state.replaceAll handles).1]) state
      (state.replaceAll handles).1 := by
  have moves : Moves False (fun _ => True) state (state.installEach handles) :=
    moves_installEach (fun _ _ => trivial) state
  exact (reseats_installEach keyed exclusive handle handles).trans
    (reseats_removeEach (keyed.moves moves) (exclusive.moves keyed moves) handle _)

/-! ## What a replacement maps -/

theorem mem_identitiesOf_iff {handles : List Handle} :
    identity ∈ state.identitiesOf handles ↔
      ∃ handle ∈ handles, ∃ session, state.channels[handle]? = some session ∧
        session.identity = identity := by
  simp only [identitiesOf, List.mem_filterMap, Option.map_eq_some_iff]
  rfl

theorem lookup_replaceAll (handles : List Handle) (identity : Identity) (state : State Session) :
    (state.replaceAll handles).1.registry.lookup identity =
      if identity ∈ state.identitiesOf handles then
        (state.installEach handles).registry.lookup identity else none := by
  have result : (state.replaceAll handles).1 = (state.installEach handles).removeEach
      ((state.installEach handles).registry.identities.filter
        (· ∉ (state.identitiesOf handles).eraseDups)) := rfl
  rw [result, lookup_removeEach]
  cases mapped : (state.installEach handles).registry.lookup identity with
  | none => simp
  | some handle =>
      have member : identity ∈ (state.installEach handles).registry.identities :=
        Registry.mem_identities_iff.mpr ⟨handle, mapped⟩
      by_cases kept : identity ∈ state.identitiesOf handles <;> simp [member, kept]

theorem identitiesOf_eq (handles : List Handle) (state : State Session) :
    state.identitiesOf handles =
      handles.filterMap fun handle => state.profiles[handle]?.map Profile.identity := by
  simp only [identitiesOf, profiles, List.getElem?_map, Option.map_map]
  rfl

theorem identitiesOf_install (handle : Handle) (handles : List Handle) (state : State Session) :
    (state.install handle).1.identitiesOf handles = state.identitiesOf handles := by
  rw [identitiesOf_eq, identitiesOf_eq, profiles_install]

theorem lookup_installEach_of_not_mem {handles : List Handle}
    (absent : identity ∉ state.identitiesOf handles) :
    (state.installEach handles).registry.lookup identity = state.registry.lookup identity := by
  induction handles generalizing state with
  | nil => rfl
  | cons handle rest hypothesis =>
      simp only [mem_identitiesOf_iff, List.mem_cons, exists_eq_or_imp, not_or] at absent
      rcases absent with ⟨notFirst, notLater⟩
      have later : identity ∉ (state.install handle).1.identitiesOf rest := by
        rw [identitiesOf_install, mem_identitiesOf_iff]
        exact notLater
      refine (hypothesis later).trans ?_
      cases known : state.channels[handle]? with
      | none => rw [install_of_unknown known]
      | some session =>
          rw [lookup_install known, if_neg]
          rintro rfl
          exact notFirst ⟨session, known, rfl⟩

theorem exists_lookup_installEach {handles : List Handle}
    (member : identity ∈ state.identitiesOf handles) :
    ∃ handle ∈ handles,
      (state.installEach handles).registry.lookup identity = some handle := by
  induction handles generalizing state with
  | nil => cases member
  | cons handle rest hypothesis =>
      by_cases later : identity ∈ (state.install handle).1.identitiesOf rest
      · rcases hypothesis later with ⟨last, among, mapped⟩
        exact ⟨last, List.mem_cons_of_mem handle among, mapped⟩
      · refine ⟨handle, List.mem_cons_self, (lookup_installEach_of_not_mem later).trans ?_⟩
        rw [identitiesOf_install, mem_identitiesOf_iff] at later
        simp only [mem_identitiesOf_iff, List.mem_cons, exists_eq_or_imp] at member
        rcases member.resolve_right later with ⟨session, known, rfl⟩
        rw [lookup_install known, if_pos rfl]

/-- After a replacement only the given sessions are mapped. -/
theorem mem_of_lookup_replaceAll {handles : List Handle}
    (mapped : (state.replaceAll handles).1.registry.lookup identity = some handle) :
    handle ∈ handles := by
  rw [lookup_replaceAll] at mapped
  split at mapped
  · rename_i kept
    rcases exists_lookup_installEach kept with ⟨last, among, found⟩
    cases mapped.symm.trans found
    exact among
  · cases mapped

end State

end TunnelServer
