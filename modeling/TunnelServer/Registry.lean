import TunnelServer.Address.Ipv6

/-!
# The registry

Each tunnel identity is mapped to at most one channel.  Channels are named by handles, so that two
channels of one tunnel are told apart even when they agree in everything else.  Main statements:
what a lookup finds after an insertion and after an erasure.
-/

namespace TunnelServer

/-- The name of a channel: its place in the order of creation. -/
abbrev Handle := Nat

/-- A mapping from identities to channels in which no identity occurs twice. -/
structure Registry where
  entries : List (Identity × Handle) := []
  nodup : (entries.map Prod.fst).Nodup := by simp

namespace Registry

/-- The mapping without entries. -/
def empty : Registry := {}

/-- The channel mapped to an identity. -/
def lookup (registry : Registry) (identity : Identity) : Option Handle :=
  (registry.entries.find? fun entry => entry.1 = identity).map Prod.snd

def identities (registry : Registry) : List Identity := registry.entries.map Prod.fst

def handles (registry : Registry) : List Handle := registry.entries.map Prod.snd

def size (registry : Registry) : Nat := registry.entries.length

theorem nodup_filter {entries : List (Identity × Handle)} (nodup : (entries.map Prod.fst).Nodup)
    (keep : Identity × Handle → Bool) : ((entries.filter keep).map Prod.fst).Nodup :=
  nodup.sublist (List.filter_sublist.map _)

/-- Takes an identity out of the mapping. -/
def erase (registry : Registry) (identity : Identity) : Registry where
  entries := registry.entries.filter fun entry => entry.1 ≠ identity
  nodup := nodup_filter registry.nodup _

/-- Maps an identity to a channel, in place of what it was mapped to. -/
def insert (registry : Registry) (identity : Identity) (handle : Handle) : Registry where
  entries := (identity, handle) :: (registry.erase identity).entries
  nodup := by
    rw [List.map_cons, List.nodup_cons]
    refine ⟨fun member => ?_, (registry.erase identity).nodup⟩
    obtain ⟨entry, kept, same⟩ := List.mem_map.mp member
    simp [erase] at kept
    exact kept.2 same

theorem lookup_eq_some_iff {registry : Registry} {identity : Identity} {handle : Handle} :
    registry.lookup identity = some handle ↔ (identity, handle) ∈ registry.entries := by
  obtain ⟨entries, nodup⟩ := registry
  simp only [lookup]
  induction entries with
  | nil => simp
  | cons entry rest hypothesis =>
    rw [List.map_cons, List.nodup_cons] at nodup
    by_cases same : entry.1 = identity
    · have absent : (identity, handle) ∉ rest := fun member =>
        nodup.1 (same ▸ List.mem_map_of_mem member)
      obtain ⟨key, mapped⟩ := entry
      subst same
      simp [absent, eq_comm]
    · have other : (identity, handle) ≠ entry := fun equal => same (by rw [← equal])
      rw [List.find?_cons_of_neg (by simpa using same), hypothesis nodup.2, List.mem_cons]
      simp [other]

theorem lookup_insert (registry : Registry) (identity other : Identity) (handle : Handle) :
    (registry.insert identity handle).lookup other =
      if other = identity then some handle else registry.lookup other := by
  split
  · rename_i same
    subst same
    simp [lookup, insert]
  · rename_i different
    apply Option.ext
    intro found
    simp only [lookup_eq_some_iff, insert, erase, List.mem_cons, Prod.mk.injEq, different,
      false_and, false_or, List.mem_filter, ne_eq, decide_not]
    simp

theorem lookup_erase (registry : Registry) (identity other : Identity) :
    (registry.erase identity).lookup other =
      if other = identity then none else registry.lookup other := by
  apply Option.ext
  intro found
  rw [lookup_eq_some_iff]
  split
  · rename_i same
    simp [erase, same]
  · rename_i different
    rw [lookup_eq_some_iff]
    simp [erase, different]

theorem mem_identities_iff {registry : Registry} {identity : Identity} :
    identity ∈ registry.identities ↔ ∃ handle, registry.lookup identity = some handle := by
  simp [identities, lookup_eq_some_iff]

theorem mem_handles_iff {registry : Registry} {handle : Handle} :
    handle ∈ registry.handles ↔ ∃ identity, registry.lookup identity = some handle := by
  simp [handles, lookup_eq_some_iff]

end Registry

end TunnelServer
