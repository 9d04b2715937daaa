import TunnelServer.Proofs.Run.Isolation

/-!
# At most one connected session for each tunnel

As long as sessions are connected only by the registry and by the packets that come for them, a
session with a peer is the very one that its identity is mapped to.  A session that was displaced,
removed or reloaded away is idle, and it stays idle and without effect until it is installed again.
-/

namespace TunnelServer

variable {link : LocalLink} {state : State Session} {handle : Handle} {session : Session}

namespace Session

theorem peer?_isSome (session : Session) : session.peer?.isSome = session.link.isSome :=
  Option.isSome_map

/-- A session takes nothing, sends nothing and beats not; the attempt leaves it as it is. -/
def RefusesAll (session : Session) : Prop :=
  ∀ clock octets,
    session.receive clock octets = (session, .error (.notConnected session.identity)) ∧
      (∃ error, session.send clock octets = (session, .error error)) ∧
      session.beat clock = (session, .error (.notConnected session.identity))

theorem refusesAll_of_unlinked (unlinked : session.link = none) : session.RefusesAll := by
  intro clock octets
  refine ⟨?_, ?_, ?_⟩
  · simp only [receive, unlinked]
  · simp only [send, pack, unlinked]
    split
    · exact ⟨_, rfl⟩
    · exact ⟨_, rfl⟩
  · simp only [beat, pack, unlinked]

end Session

/-- No operation depends on a session that it neither installs nor calls: with any other unlinked
session in its place the answer is the same, and so is all of the state but that session. -/
def State.Ignores (link : LocalLink) (handle : Handle) (state : State Session) : Prop :=
  ∀ (operation : SessionOperation) (other : Session), ¬operation.Installs handle →
    ¬operation.Calls handle → other.link = none →
      operation.apply link (state.put handle other) =
        (operation.apply link state).map (State.put handle other) id

/-- A session that is not the one its identity is mapped to is idle. -/
theorem State.Keyed.idle (keyed : state.Keyed) (exclusive : state.Exclusive)
    (known : state.channels[handle]? = some session)
    (elsewhere : state.registry.lookup session.identity ≠ some handle) :
    state.Idle handle session := by
  rcases List.getElem?_eq_some_iff.mp known with ⟨bound, -⟩
  refine ⟨⟨bound, ?_⟩, known, ?_⟩
  · intro member
    rcases Registry.mem_handles_iff.mp member with ⟨identity, lookup⟩
    rcases keyed identity handle lookup with ⟨mapped, there, same⟩
    rw [known] at there
    cases there
    rw [same] at elsewhere
    exact elsewhere lookup
  · cases linked : session.link with
    | none => rfl
    | some found =>
        have present : session.link.isSome := by simp [linked]
        exact absurd (exclusive handle session known present) elsewhere

/-- Every identity is mapped to a session of that identity, and a session with a peer is the one that
its identity is mapped to, so that no two sessions of one identity have peers.  A session to which
its identity is not mapped has no peer; until it is installed or called it stays just as it is,
refuses whatever it is asked, and has no part in what the server does. -/
theorem connected_session_is_mapped
    (reachable : Reachable link (fun operation => ¬operation.ConnectsDirectly) state) :
    (∀ identity handle, state.registry.lookup identity = some handle →
        ∃ session, state.channels[handle]? = some session ∧ session.identity = identity) ∧
      (∀ handle session, state.channels[handle]? = some session → session.peer?.isSome →
        state.registry.lookup session.identity = some handle) ∧
      (∀ (one other : Handle) (first second : Session), state.channels[one]? = some first →
        state.channels[other]? = some second → first.peer?.isSome → second.peer?.isSome →
          first.identity = second.identity → one = other) ∧
      (∀ handle session, state.channels[handle]? = some session →
        state.registry.lookup session.identity ≠ some handle →
          session.peer? = none ∧ session.RefusesAll ∧
            ∀ later, LeadsTo link
                (fun operation => ¬operation.Installs handle ∧ ¬operation.Calls handle)
                state later →
              later.channels[handle]? = some session ∧ handle ∉ later.registry.handles ∧
                later.Ignores link handle) := by
  have keyed := reachable.keyed
  have exclusive := reachable.exclusive fun operation indirect => indirect
  have mapped : ∀ handle session, state.channels[handle]? = some session →
      session.peer?.isSome → state.registry.lookup session.identity = some handle := by
    intro handle session known connected
    rw [Session.peer?_isSome] at connected
    exact exclusive handle session known connected
  refine ⟨keyed, mapped, ?_, ?_⟩
  · intro one other first second knownFirst knownSecond firstConnected secondConnected same
    have lookup := mapped one first knownFirst firstConnected
    rw [same, mapped other second knownSecond secondConnected] at lookup
    exact (Option.some.inj lookup).symm
  · intro handle session known elsewhere
    have idle := keyed.idle exclusive known elsewhere
    refine ⟨?_, Session.refusesAll_of_unlinked idle.unlinked, ?_⟩
    · simp only [Session.peer?, idle.unlinked, Option.map_none]
    · intro later leads
      have still := leads.idle idle
      refine ⟨still.known, still.unmapped.2, ?_⟩
      intro operation other uninstalled uncalled unlinked
      exact operation.apply_put link still uninstalled uncalled unlinked

/-- At the small server a second session of the tunnel displaces the first, which was connected. -/
theorem displaced_session_is_ignored :
    let displacing : List SessionOperation :=
      [.common (.installOrReplace 0 "local" (.v4 Ipv4Address.unspecified 5072)),
        .create Sample.record, .common (.install 1)]
    let state := (SessionOperation.run Sample.localLink Sample.server displacing).1
    Reachable Sample.localLink (fun operation => ¬operation.ConnectsDirectly) state ∧
      state.registry.lookup Sample.identity = some 1 ∧
      state.channels[0]? = some Sample.session ∧
      ∀ later, LeadsTo Sample.localLink
          (fun operation => ¬operation.Installs 0 ∧ ¬operation.Calls 0) state later →
        later.channels[0]? = some Sample.session ∧ later.Ignores Sample.localLink 0 := by
  intro displacing state
  have reachable : Reachable Sample.localLink (fun operation => ¬operation.ConnectsDirectly)
      state := by
    refine (Sample.reachable_server id id).run displacing ?_
    simp only [displacing, List.forall_mem_cons, List.not_mem_nil, false_imp_iff, implies_true,
      and_true]
    exact ⟨id, id, id⟩
  have mapped : state.registry.lookup Sample.identity = some 1 := rfl
  have known : state.channels[0]? = some Sample.session := rfl
  refine ⟨reachable, mapped, known, ?_⟩
  intro later leads
  have elsewhere : state.registry.lookup Sample.session.identity ≠ some 0 := by
    intro same
    cases mapped.symm.trans same
  rcases connected_session_is_mapped reachable with ⟨-, -, -, unmapped⟩
  rcases unmapped 0 Sample.session known elsewhere with ⟨-, -, stays⟩
  exact ⟨(stays later leads).1, (stays later leads).2.2⟩

end TunnelServer
