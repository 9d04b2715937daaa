import Mathlib.Data.Finset.Card
import TunnelServer.Proofs.Run.Registration

/-!
# What a replacement leaves behind

A replacement of the mapping, of whatever state, maps the identities of the given sessions and no
others, each to the last of the given sessions that belong to it.  Every session that was mapped and
is not among the given ones is closed, a session without a link stays as it is, and of the rest of
the server nothing changes.
-/

namespace TunnelServer

namespace State

variable {state before between after : State Session} {handle : Handle} {session : Session}
variable {identity : Identity} {handles : List Handle}

/-! ## What becomes of a session -/

/-- A session that is not mapped anew is closed if it loses its place in the mapping, and stays as it
is if it does not. -/
structure Yields (handle : Handle) (before after : State Session) : Prop where
  held : handle ∈ after.registry.handles → handle ∈ before.registry.handles
  fate : (after.channels[handle]? = before.channels[handle]? ∧
      (handle ∈ before.registry.handles → handle ∈ after.registry.handles)) ∨
    (handle ∈ before.registry.handles ∧
      after.channels[handle]? = before.channels[handle]?.map Session.close)

namespace Yields

theorem refl (handle : Handle) (state : State Session) : Yields handle state state :=
  ⟨id, .inl ⟨rfl, id⟩⟩

theorem trans (first : Yields handle before between) (second : Yields handle between after) :
    Yields handle before after := by
  refine ⟨fun member => first.held (second.held member), ?_⟩
  rcases first.fate with ⟨same, kept⟩ | ⟨member, closed⟩
  · rcases second.fate with ⟨sameLater, keptLater⟩ | ⟨member, closed⟩
    · exact .inl ⟨sameLater.trans same, fun member => keptLater (kept member)⟩
    · rw [same] at closed
      exact .inr ⟨first.held member, closed⟩
  · refine .inr ⟨member, ?_⟩
    rcases second.fate with ⟨sameLater, -⟩ | ⟨-, closedLater⟩
    · exact sameLater.trans closed
    · rw [closedLater, closed, Option.map_map]
      rfl

end Yields

theorem getElem?_close (handle : Handle) (state : State Session) :
    (state.close handle).channels[handle]? = state.channels[handle]?.map Session.close := by
  cases known : state.channels[handle]? with
  | none => rw [close_of_none known, known, Option.map_none]
  | some session =>
      rcases List.getElem?_eq_some_iff.mp known with ⟨bound, -⟩
      rw [close_of_getElem? known, channels_put, List.getElem?_set_self bound, Option.map_some]

theorem yields_install {installed : Handle} (different : handle ≠ installed)
    (state : State Session) : Yields handle state (state.install installed).1 := by
  cases known : state.channels[installed]? with
  | none =>
      rw [install_of_unknown known]
      exact .refl handle state
  | some session =>
      have held : handle ∈ (state.registry.insert session.identity installed).handles →
          handle ∈ state.registry.handles := by
        intro member
        rcases Registry.mem_handles_iff.mp member with ⟨identity, found⟩
        rw [Registry.lookup_insert] at found
        split at found
        · exact absurd (Option.some.inj found).symm different
        · exact Registry.mem_handles_iff.mpr ⟨identity, found⟩
      rcases install_cases known with ⟨vacant, result⟩ | ⟨previous, mapped, -, result⟩
      · rw [result]
        exact ⟨held, .inl ⟨rfl, fun member => mem_handles_insert_of_mem member (vacant handle)⟩⟩
      · rw [result]
        refine ⟨held, ?_⟩
        by_cases displaced : previous = handle
        · subst displaced
          exact .inr ⟨Registry.mem_handles_iff.mpr ⟨_, mapped⟩, getElem?_close previous state⟩
        · refine .inl ⟨getElem?_close_of_ne displaced, ?_⟩
          intro member
          apply mem_handles_insert_of_mem member
          intro found
          exact absurd (Option.some.inj (mapped.symm.trans found)) displaced

theorem yields_remove (handle : Handle) (identity : Identity) (state : State Session) :
    Yields handle state (state.remove identity).1 := by
  simp only [remove]
  split
  · exact .refl handle state
  · rename_i removed mapped
    rw [close_mapping]
    constructor
    · intro member
      rcases Registry.mem_handles_iff.mp member with ⟨other, found⟩
      rw [Registry.lookup_erase] at found
      split at found
      · cases found
      · exact Registry.mem_handles_iff.mpr ⟨other, found⟩
    · by_cases same : removed = handle
      · subst same
        exact .inr ⟨Registry.mem_handles_iff.mpr ⟨_, mapped⟩, getElem?_close removed state⟩
      · refine .inl ⟨getElem?_close_of_ne same, ?_⟩
        intro member
        rcases Registry.mem_handles_iff.mp member with ⟨other, found⟩
        refine Registry.mem_handles_iff.mpr ⟨other, ?_⟩
        rw [Registry.lookup_erase, if_neg, found]
        rintro rfl
        exact same (Option.some.inj (mapped.symm.trans found))

theorem yields_replaceAll (absent : handle ∉ handles) (state : State Session) :
    Yields handle state (state.replaceAll handles).1 := by
  have installed : Yields handle state (state.installEach handles) := by
    refine List.foldlRecOn handles _ (.refl handle state) ?_
    intro between yields installed among
    refine yields.trans (yields_install ?_ between)
    rintro rfl
    exact absent among
  refine installed.trans ?_
  refine List.foldlRecOn _ _ (.refl handle _) ?_
  intro between yields identity _
  exact yields.trans (yields_remove handle identity between)

/-- A replacement closes every mapped session that is not among the given ones, and touches no other
of them. -/
theorem getElem?_replaceAll_of_not_mem (absent : handle ∉ handles) (state : State Session) :
    (state.replaceAll handles).1.channels[handle]? =
      if handle ∈ state.registry.handles then state.channels[handle]?.map Session.close
      else state.channels[handle]? := by
  have unmapped : handle ∉ (state.replaceAll handles).1.registry.handles := by
    intro member
    rcases Registry.mem_handles_iff.mp member with ⟨identity, mapped⟩
    exact absent (mem_of_lookup_replaceAll mapped)
  rcases (yields_replaceAll absent state).fate with ⟨same, kept⟩ | ⟨member, closed⟩
  · rw [same, if_neg fun member => unmapped (kept member)]
  · rw [closed, if_pos member]

/-! ## Sessions without a link -/

theorem getElem?_close_of_unlinked (known : state.channels[handle]? = some session)
    (unlinked : session.link = none) (closed : Handle) :
    (state.close closed).channels[handle]? = some session := by
  by_cases same : closed = handle
  · rw [same, getElem?_close, known, Option.map_some, Session.close_of_unlinked unlinked]
  · exact (getElem?_close_of_ne same).trans known

theorem getElem?_install_of_unlinked (known : state.channels[handle]? = some session)
    (unlinked : session.link = none) (installed : Handle) :
    (state.install installed).1.channels[handle]? = some session := by
  cases there : state.channels[installed]? with
  | none =>
      rw [install_of_unknown there]
      exact known
  | some other =>
      rcases install_cases there with ⟨-, result⟩ | ⟨previous, -, -, result⟩
      · rw [result]
        exact known
      · rw [result]
        exact getElem?_close_of_unlinked known unlinked previous

theorem getElem?_remove_of_unlinked (known : state.channels[handle]? = some session)
    (unlinked : session.link = none) (identity : Identity) :
    (state.remove identity).1.channels[handle]? = some session := by
  simp only [remove]
  split
  · exact known
  · rw [close_mapping]
    exact getElem?_close_of_unlinked known unlinked _

theorem getElem?_replaceAll_of_unlinked (known : state.channels[handle]? = some session)
    (unlinked : session.link = none) (handles : List Handle) :
    (state.replaceAll handles).1.channels[handle]? = some session := by
  have installed : (state.installEach handles).channels[handle]? = some session := by
    refine List.foldlRecOn 
      (motive := fun state : State Session => state.channels[handle]? = some session) handles _ known ?_
    intro between there installed _
    exact getElem?_install_of_unlinked there unlinked installed
  refine List.foldlRecOn 
    (motive := fun state : State Session => state.channels[handle]? = some session) _ _ installed ?_
  intro between there identity _
  exact getElem?_remove_of_unlinked there unlinked identity

/-! ## The rest of the server -/

/-- What a server is apart from its sessions and their mapping. -/
def aside (state : State Session) : State Session :=
  { state with channels := [], registry := .empty }

theorem aside_close (handle : Handle) (state : State Session) :
    (state.close handle).aside = state.aside := by
  simp only [close, onChannel]
  split <;> rfl

theorem aside_install (handle : Handle) (state : State Session) :
    (state.install handle).1.aside = state.aside := by
  simp only [install]
  split
  · rfl
  · split
    · rfl
    · split
      · rfl
      · exact aside_close _ _

theorem aside_remove (identity : Identity) (state : State Session) :
    (state.remove identity).1.aside = state.aside := by
  simp only [remove]
  split
  · rfl
  · exact aside_close _ _

theorem aside_removeEach (identities : List Identity) (state : State Session) :
    (state.removeEach identities).aside = state.aside :=
  view_foldl aside _ (fun state identity => aside_remove identity state) identities state

theorem aside_replaceAll (handles : List Handle) (state : State Session) :
    (state.replaceAll handles).1.aside = state.aside := by
  have installed : (state.installEach handles).aside = state.aside :=
    view_foldl aside _ (fun state handle => aside_install handle state) handles state
  exact (aside_removeEach _ _).trans installed

/-! ## The mapping -/

theorem identitiesOf_installEach (installed handles : List Handle) (state : State Session) :
    (state.installEach installed).identitiesOf handles = state.identitiesOf handles := by
  rw [identitiesOf_eq, identitiesOf_eq, profiles_installEach]

/-- Of the given sessions with one identity the last is mapped to it. -/
theorem lookup_replaceAll_last {earlier later : List Handle}
    (known : state.channels[handle]? = some session)
    (last : session.identity ∉ state.identitiesOf later) :
    (state.replaceAll (earlier ++ handle :: later)).1.registry.lookup session.identity =
      some handle := by
  have among : session.identity ∈ state.identitiesOf (earlier ++ handle :: later) :=
    mem_identitiesOf_iff.mpr ⟨handle, by simp, session, known, rfl⟩
  have parts : state.installEach (earlier ++ handle :: later) =
      ((state.installEach earlier).install handle).1.installEach later := by
    simp only [installEach, List.foldl_append, List.foldl_cons]
  have unclaimed : session.identity ∉
      ((state.installEach earlier).install handle).1.identitiesOf later := by
    rw [identitiesOf_install, identitiesOf_installEach]
    exact last
  have profile : (state.installEach earlier).profiles[handle]? = some session.profile := by
    rw [profiles_installEach, profiles, List.getElem?_map, known, Option.map_some]
  rw [profiles, List.getElem?_map, Option.map_eq_some_iff] at profile
  rcases profile with ⟨other, there, same⟩
  have identity : session.identity = other.identity := congrArg Profile.identity same.symm
  rw [lookup_replaceAll, if_pos among, parts, lookup_installEach_of_not_mem unclaimed,
    lookup_install there, if_pos identity]

theorem nodup_eraseDups (identities : List Identity) : identities.eraseDups.Nodup := by
  cases identities with
  | nil => simp
  | cons identity rest =>
      rw [List.eraseDups_cons, List.nodup_cons]
      refine ⟨?_, nodup_eraseDups _⟩
      simp
termination_by identities.length
decreasing_by
  rw [List.length_cons]
  exact Nat.lt_succ_of_le (List.length_filter_le _ _)

theorem snd_replaceAll (handles : List Handle) (state : State Session) :
    (state.replaceAll handles).2 = (state.identitiesOf handles).toFinset.card := by
  have same : (state.identitiesOf handles).toFinset =
      (state.identitiesOf handles).eraseDups.toFinset := by
    ext identity
    simp
  rw [same, List.toFinset_card_of_nodup (nodup_eraseDups _)]
  rfl

theorem exists_lookup_replaceAll_iff (handles : List Handle) (identity : Identity)
    (state : State Session) :
    (∃ handle, (state.replaceAll handles).1.registry.lookup identity = some handle) ↔
      identity ∈ state.identitiesOf handles := by
  rw [lookup_replaceAll]
  split
  · rename_i among
    rcases exists_lookup_installEach among with ⟨handle, -, mapped⟩
    exact iff_of_true ⟨handle, mapped⟩ among
  · rename_i absent
    exact iff_of_false nofun absent

theorem size_replaceAll (handles : List Handle) (state : State Session) :
    (state.replaceAll handles).1.registry.size = (state.identitiesOf handles).toFinset.card := by
  have same : (state.identitiesOf handles).toFinset =
      (state.replaceAll handles).1.registry.identities.toFinset := by
    ext identity
    rw [List.mem_toFinset, List.mem_toFinset, Registry.mem_identities_iff,
      exists_lookup_replaceAll_iff]
  have nodup : (state.replaceAll handles).1.registry.identities.Nodup :=
    (state.replaceAll handles).1.registry.nodup
  rw [same, List.toFinset_card_of_nodup nodup]
  simp only [Registry.size, Registry.identities, List.length_map]

end State

end TunnelServer
