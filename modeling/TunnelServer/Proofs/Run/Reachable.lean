import TunnelServer.Proofs.Run.Move

/-!
# The states that a server can reach

A server starts without sessions and goes on by one operation after the other.  A snapshot of the
registry lists the mapped sessions in no particular order, so the entries of the registry may change
places at any time.

Two invariants hold in every state reached: an identity is mapped to a session of that identity, and,
as long as no session is connected directly, a session with a link is the one that its identity is
mapped to.  Both are proved for one move and carried over to operations and runs.
-/

namespace TunnelServer

theorem Registry.lookup_of_perm {one other : Registry} (same : one.entries.Perm other.entries)
    (identity : Identity) : one.lookup identity = other.lookup identity := by
  apply Option.ext
  intro handle
  rw [lookup_eq_some_iff, lookup_eq_some_iff]
  exact same.mem_iff

/-- The states that permitted operations lead to from one state. -/
inductive LeadsTo (link : LocalLink) (permitted : SessionOperation → Prop)
    (origin : State Session) : State Session → Prop where
  | start : LeadsTo link permitted origin origin
  | step {state : State Session} (operation : SessionOperation)
      (earlier : LeadsTo link permitted origin state) (allowed : permitted operation) :
      LeadsTo link permitted origin (operation.apply link state).1
  | reordered {state : State Session} {registry : Registry}
      (earlier : LeadsTo link permitted origin state)
      (same : registry.entries.Perm state.registry.entries) :
      LeadsTo link permitted origin { state with registry := registry }

/-- The states that permitted operations lead to from a server without sessions. -/
def Reachable (link : LocalLink) (permitted : SessionOperation → Prop) (state : State Session) :
    Prop :=
  ∃ clock, LeadsTo link permitted { clock := clock } state

namespace State

variable {direct : Prop} {mappable : Handle → Prop} {before after : State Session}

/-- An identity is mapped to a session of that identity. -/
def Keyed (state : State Session) : Prop :=
  ∀ identity handle, state.registry.lookup identity = some handle →
    ∃ session, state.channels[handle]? = some session ∧ session.identity = identity

/-- A session with a link is the one that its identity is mapped to. -/
def Exclusive (state : State Session) : Prop :=
  ∀ handle session, state.channels[handle]? = some session → session.link.isSome →
    state.registry.lookup session.identity = some handle

/-- A session is there, but no identity is mapped to it. -/
def Unmapped (handle : Handle) (state : State Session) : Prop :=
  handle < state.channels.length ∧ handle ∉ state.registry.handles

/-! ## One move -/

theorem Keyed.move (keyed : before.Keyed) (move : Move direct mappable before after) :
    after.Keyed := by
  intro identity handle lookup
  cases move with
  | aside channels registry =>
      rw [channels]
      rw [registry] at lookup
      exact keyed identity handle lookup
  | added unlinked =>
      rcases keyed identity handle lookup with ⟨session, known, same⟩
      refine ⟨session, ?_, same⟩
      rcases List.getElem?_eq_some_iff.mp known with ⟨bound, -⟩
      simp only [add]
      rw [List.getElem?_append_left bound, known]
  | @changed changed session changedTo there change =>
      rcases keyed identity handle lookup with ⟨mapped, known, same⟩
      rcases List.getElem?_eq_some_iff.mp known with ⟨bound, -⟩
      rw [channels_put, List.getElem?_set]
      split
      · rename_i equal
        subst equal
        refine ⟨changedTo, by simp [bound], ?_⟩
        rw [there] at known
        rw [← same, ← Option.some.inj known]
        exact congrArg Profile.identity change.profile_eq
      · exact ⟨mapped, known, same⟩
  | @mapped new session permitted there displaced =>
      dsimp only at lookup
      rw [Registry.lookup_insert] at lookup
      split at lookup
      · rename_i equal
        rw [← Option.some.inj lookup]
        exact ⟨session, there, equal.symm⟩
      · exact keyed identity handle lookup
  | unmapped displaced =>
      dsimp only at lookup
      rw [Registry.lookup_erase] at lookup
      split at lookup
      · cases lookup
      · exact keyed identity handle lookup

/-- Without direct connections a move links a session only where it is mapped, and unmaps one only
when it has no link. -/
theorem Exclusive.move (exclusive : before.Exclusive) (keyed : before.Keyed)
    (move : Move False mappable before after) : after.Exclusive := by
  intro handle session known linked
  cases move with
  | aside channels registry =>
      rw [channels] at known
      rw [registry]
      exact exclusive handle session known linked
  | @added new unlinked =>
      simp only [add, List.getElem?_append] at known
      split at known
      · exact exclusive handle session known linked
      · rcases List.getElem?_eq_some_iff.mp known with ⟨_, same⟩
        simp only [List.getElem_singleton] at same
        rw [← same, unlinked] at linked
        cases linked
  | @changed changed session' changedTo there change =>
      rw [channels_put, List.getElem?_set] at known
      split at known
      · rename_i equal
        subst equal
        split at known
        · rw [← Option.some.inj known] at linked ⊢
          have same : changedTo.identity = session'.identity :=
            congrArg Profile.identity change.profile_eq
          rw [registry_put, same]
          rcases change.link_of_link linked with earlier | permitted
          · exact exclusive changed session' there earlier
          · rcases permitted with impossible | member
            · exact impossible.elim
            · rcases Registry.mem_handles_iff.mp member with ⟨identity, lookup⟩
              rcases keyed identity changed lookup with ⟨mapped, found, identified⟩
              rw [there] at found
              rw [Option.some.inj found, identified]
              exact lookup
        · cases known
      · exact exclusive handle session known linked
  | @mapped new mappedTo permitted there displaced =>
      have lookup := exclusive handle session known linked
      dsimp only
      rw [Registry.lookup_insert]
      split
      · rename_i same
        rw [same] at lookup
        rcases displaced handle session lookup known with equal | unlinked
        · rw [equal]
        · rw [unlinked] at linked
          cases linked
      · exact lookup
  | @unmapped identity displaced =>
      have lookup := exclusive handle session known linked
      dsimp only
      rw [Registry.lookup_erase]
      split
      · rename_i same
        rw [same] at lookup
        rw [displaced handle session lookup known] at linked
        cases linked
      · exact lookup

theorem Unmapped.move {handle : Handle} (unmapped : before.Unmapped handle)
    (unmappable : ¬mappable handle) (move : Move direct mappable before after) :
    after.Unmapped handle := by
  rcases unmapped with ⟨bound, absent⟩
  cases move with
  | aside channels registry =>
      rw [Unmapped, channels, registry]
      exact ⟨bound, absent⟩
  | added unlinked =>
      refine ⟨?_, absent⟩
      simp only [add, List.length_append, List.length_singleton]
      exact Nat.lt_succ_of_lt bound
  | changed there change =>
      refine ⟨?_, absent⟩
      rw [channels_put, List.length_set]
      exact bound
  | @mapped new session permitted there displaced =>
      refine ⟨bound, ?_⟩
      intro member
      rcases Registry.mem_handles_iff.mp member with ⟨identity, lookup⟩
      rw [Registry.lookup_insert] at lookup
      split at lookup
      · rw [Option.some.inj lookup] at permitted
        exact unmappable permitted
      · exact absent (Registry.mem_handles_iff.mpr ⟨identity, lookup⟩)
  | unmapped displaced =>
      refine ⟨bound, ?_⟩
      intro member
      rcases Registry.mem_handles_iff.mp member with ⟨identity, lookup⟩
      rw [Registry.lookup_erase] at lookup
      split at lookup
      · cases lookup
      · exact absent (Registry.mem_handles_iff.mpr ⟨identity, lookup⟩)

/-! ## Any number of moves -/

theorem Keyed.moves (keyed : before.Keyed) (moves : Moves direct mappable before after) :
    after.Keyed := by
  induction moves with
  | refl => exact keyed
  | tail _ move hypothesis => exact hypothesis.move move

theorem Exclusive.moves (exclusive : before.Exclusive) (keyed : before.Keyed)
    (moves : Moves False mappable before after) : after.Exclusive := by
  induction moves with
  | refl => exact exclusive
  | tail earlier move hypothesis => exact hypothesis.move (keyed.moves earlier) move

theorem Unmapped.moves {handle : Handle} (unmapped : before.Unmapped handle)
    (unmappable : ¬mappable handle) (moves : Moves direct mappable before after) :
    after.Unmapped handle := by
  induction moves with
  | refl => exact unmapped
  | tail _ move hypothesis => exact hypothesis.move unmappable move

end State

/-! ## Every state reached -/

section

variable {link : LocalLink} {permitted : SessionOperation → Prop}
variable {origin state : State Session}

theorem State.Keyed.reordered {registry : Registry} (keyed : state.Keyed)
    (same : registry.entries.Perm state.registry.entries) :
    State.Keyed { state with registry := registry } := by
  intro identity handle lookup
  rw [Registry.lookup_of_perm same] at lookup
  exact keyed identity handle lookup

theorem State.Exclusive.reordered {registry : Registry} (exclusive : state.Exclusive)
    (same : registry.entries.Perm state.registry.entries) :
    State.Exclusive { state with registry := registry } := by
  intro handle session known linked
  rw [Registry.lookup_of_perm same]
  exact exclusive handle session known linked

namespace LeadsTo

theorem keyed (leads : LeadsTo link permitted origin state) (keyed : origin.Keyed) :
    state.Keyed := by
  induction leads with
  | start => exact keyed
  | @step state operation _ _ hypothesis =>
      exact hypothesis.moves (operation.moves_apply link state)
  | reordered _ same hypothesis => exact hypothesis.reordered same

theorem exclusive (leads : LeadsTo link permitted origin state) (keyed : origin.Keyed)
    (exclusive : origin.Exclusive)
    (indirect : ∀ operation, permitted operation → ¬operation.ConnectsDirectly) :
    state.Exclusive := by
  induction leads with
  | start => exact exclusive
  | @step state operation earlier allowed hypothesis =>
      have moves := operation.moves_apply link state
      rw [eq_false (indirect operation allowed)] at moves
      exact hypothesis.moves (earlier.keyed keyed) moves
  | reordered _ same hypothesis => exact hypothesis.reordered same

/-- A run of permitted operations leads further. -/
theorem run (leads : LeadsTo link permitted origin state) (operations : List SessionOperation)
    (allowed : ∀ operation ∈ operations, permitted operation) :
    LeadsTo link permitted origin (SessionOperation.run link state operations).1 := by
  induction operations generalizing state with
  | nil => exact leads
  | cons operation rest hypothesis =>
      refine hypothesis (leads.step operation (allowed operation (by simp))) ?_
      intro other member
      exact allowed other (by simp [member])

end LeadsTo

namespace Reachable

theorem keyed (reachable : Reachable link permitted state) : state.Keyed := by
  rcases reachable with ⟨clock, leads⟩
  apply leads.keyed
  intro identity handle lookup
  cases lookup

theorem exclusive (reachable : Reachable link permitted state)
    (indirect : ∀ operation, permitted operation → ¬operation.ConnectsDirectly) :
    state.Exclusive := by
  rcases reachable with ⟨clock, leads⟩
  refine leads.exclusive ?_ ?_ indirect
  · intro identity handle lookup
    cases lookup
  · intro handle session known
    cases known

theorem run (reachable : Reachable link permitted state) (operations : List SessionOperation)
    (allowed : ∀ operation ∈ operations, permitted operation) :
    Reachable link permitted (SessionOperation.run link state operations).1 := by
  rcases reachable with ⟨clock, leads⟩
  exact ⟨clock, leads.run operations allowed⟩

end Reachable

end

/-! ## A small server -/

namespace Sample

/-- The tunnel of the small server. -/
def identity : Identity where
  octets := [0x20, 0x01, 0x0d, 0xb8, 0, 0, 0, 0, 0, 0, 0, 0, 0, 0, 0, 2]

/-- The record of the tunnel. -/
def record : TunnelRecord where
  tunnelId := "T1"
  endpoint := identity
  pop := { octets := [0x20, 0x01, 0x0d, 0xb8, 0, 0, 0, 0, 0, 0, 0, 0, 0, 0, 0, 1] }
  ipv4Pop := some Ipv4Address.unspecified
  password := "secret"

/-- A server at its start. -/
def empty : State Session where
  clock := { startEpoch := 1700000000 }

/-- The session that is made of the record at the start. -/
def session : Session where
  profile := Session.profileOf record
  link := none
  lastReceived := 0
  lastSent := 0
  validSeen := false
  invalidCount := 0

/-- The session that is made of a record at the start, once it is connected. -/
def connected (record : TunnelRecord) (sink : Sink) : Session where
  profile := Session.profileOf record
  link := some ⟨sink, .v4 Ipv4Address.unspecified 5072⟩
  lastReceived := 0
  lastSent := 0
  validSeen := false
  invalidCount := 0

/-- Where the local traffic of the small server goes. -/
def localLink : LocalLink where
  sink := "local"

/-- The small server, whose only session is mapped. -/
def server : State Session :=
  (SessionOperation.run localLink empty [.create record, .common (.install 0)]).1

theorem reachable_server {permitted : SessionOperation → Prop}
    (creates : permitted (.create record)) (installs : permitted (.common (.install 0))) :
    Reachable localLink permitted server := by
  have start : Reachable localLink permitted empty := ⟨empty.clock, .start⟩
  refine start.run _ ?_
  simp only [List.forall_mem_cons, List.not_mem_nil, false_imp_iff, implies_true, and_true]
  exact ⟨creates, installs⟩

theorem mapped_server : server.registry.lookup identity = some 0 := rfl

theorem known_server : server.channels[0]? = some session := rfl

end Sample

end TunnelServer
