import Mathlib.Data.List.Nodup
import TunnelServer.Proofs.Run.Reachable
import TunnelServer.Proofs.Session.Liveness

/-!
# Sweeps

Some operations go through all mapped sessions, in whatever order the registry lists them, and do the
same with each.  Since no session is listed twice, a sweep changes every session by one and the same
function, and the order makes no difference.  Counting the connected sessions and surveying them are
sweeps that check each session and do nothing else.
-/

namespace TunnelServer

namespace Session

variable {clock : Clock} {session : Session}

/-- Whether a session has a link to a peer that has been silent for longer than the session's heartbeat
interval and ten seconds. -/
def hasExpired (clock : Clock) (session : Session) : Bool :=
  session.link.isSome &&
    decide (session.profile.heartbeatInterval + 10 * 1000000000 <
      clock.now - session.lastReceived)

theorem isLive_eq_not_hasExpired (clock : Clock) (session : Session) :
    session.isLive clock = (session.link.isSome && !session.hasExpired clock) := by
  have patience : session.profile.patience =
      session.profile.heartbeatInterval + 10 * 1000000000 := rfl
  rw [isLive_eq, hasExpired, patience]
  cases session.link with
  | none => rfl
  | some link =>
      rw [Option.isSome_some, Bool.true_and, Bool.true_and, Bool.true_and, ← decide_not,
        decide_eq_decide, Nat.not_lt]

theorem isLive_of_hasExpired (expired : session.hasExpired clock = true) :
    session.isLive clock = false := by
  rw [isLive_eq_not_hasExpired, expired]
  exact Bool.and_false session.link.isSome

theorem hasExpired_of_unlinked (unlinked : session.link = none) :
    session.hasExpired clock = false := by
  simp only [hasExpired, unlinked, Option.isSome_none, Bool.false_and]

theorem fst_checkLive (clock : Clock) (session : Session) :
    (session.checkLive clock).1 = if session.hasExpired clock then session.close else session := by
  cases linked : session.link with
  | none =>
      rw [hasExpired_of_unlinked linked]
      simp only [checkLive, linked, Bool.false_eq_true, if_false]
  | some link =>
      have live := isLive_eq_not_hasExpired clock session
      simp only [linked, Option.isSome_some, Bool.true_and] at live
      cases expired : session.hasExpired clock with
      | true =>
          rw [expired] at live
          rw [checkLive_of_not_isLive live, if_pos rfl]
      | false =>
          rw [expired] at live
          rw [checkLive_of_isLive live]
          rfl

end Session

namespace State

variable {state before between after : State Session} {handle : Handle} {session : Session}
variable {change : Session → Session} {handles : List Handle}

/-- No session is mapped to two identities. -/
theorem Keyed.nodup_handles (keyed : state.Keyed) : state.registry.handles.Nodup := by
  apply List.Nodup.map_on
  · rintro ⟨one, handle⟩ first ⟨other, same⟩ second (rfl : handle = same)
    rw [← Registry.lookup_eq_some_iff] at first second
    have equal : one = other := by
      rcases keyed one handle first with ⟨session, known, rfl⟩
      rcases keyed other handle second with ⟨found, there, rfl⟩
      cases known.symm.trans there
      rfl
    rw [equal]
  · exact state.registry.nodup.of_map

/-- Some sessions are changed, each in the same way; other sessions, the mapping and the clock stay as
they are. -/
structure Sweeps (change : Session → Session) (handles : List Handle)
    (before after : State Session) : Prop where
  clock : after.clock = before.clock
  registry : after.registry = before.registry
  channels : ∀ handle, after.channels[handle]? =
    if handle ∈ handles then before.channels[handle]?.map change else before.channels[handle]?

namespace Sweeps

theorem nil (change : Session → Session) (state : State Session) :
    Sweeps change [] state state :=
  ⟨rfl, rfl, fun _ => by simp⟩

theorem of_unknown (change : Session → Session) (unknown : state.channels[handle]? = none) :
    Sweeps change [handle] state state := by
  refine ⟨rfl, rfl, ?_⟩
  intro other
  split
  · rename_i same
    rw [List.mem_singleton.mp same, unknown, Option.map_none]
  · rfl

theorem put (change : Session → Session) (known : state.channels[handle]? = some session) :
    Sweeps change [handle] state (state.put handle (change session)) := by
  refine ⟨rfl, rfl, ?_⟩
  intro other
  rcases List.getElem?_eq_some_iff.mp known with ⟨bound, -⟩
  simp only [channels_put, List.getElem?_set, List.mem_singleton]
  by_cases same : other = handle
  · rw [if_pos same.symm, if_pos bound, if_pos same, same, known, Option.map_some]
  · rw [if_neg (Ne.symm same), if_neg same]

/-- What else a step does is no matter to the sweep. -/
theorem aside (sweeps : Sweeps change handles before between)
    (clock : after.clock = between.clock) (registry : after.registry = between.registry)
    (channels : after.channels = between.channels) : Sweeps change handles before after := by
  refine ⟨clock.trans sweeps.clock, registry.trans sweeps.registry, ?_⟩
  rw [channels]
  exact sweeps.channels

theorem cons (first : Sweeps change [handle] before between) (apart : handle ∉ handles)
    (later : Sweeps change handles between after) :
    Sweeps change (handle :: handles) before after := by
  refine ⟨later.clock.trans first.clock, later.registry.trans first.registry, ?_⟩
  intro other
  rw [later.channels, first.channels]
  by_cases same : other = handle
  · subst same
    simp [apart]
  · simp [same]

theorem foldl {β : Type} {step : State Session × β → Handle → State Session × β} {clock : Clock}
    (one : ∀ pair handle, pair.1.clock = clock → Sweeps change [handle] pair.1 (step pair handle).1)
    (nodup : handles.Nodup) (pair : State Session × β) (now : pair.1.clock = clock) :
    Sweeps change handles pair.1 (handles.foldl step pair).1 := by
  induction handles generalizing pair with
  | nil => exact .nil change pair.1
  | cons handle rest hypothesis =>
      rw [List.nodup_cons] at nodup
      have first := one pair handle now
      exact first.cons nodup.1 (hypothesis nodup.2 (step pair handle) (first.clock.trans now))

/-- A sweep over the mapped sessions tells what becomes of each session. -/
theorem getElem?_of_mapped (sweeps : Sweeps change before.registry.handles before after)
    (mapped : handle ∈ before.registry.handles) (known : before.channels[handle]? = some session) :
    after.channels[handle]? = some (change session) := by
  rw [sweeps.channels, if_pos mapped, known, Option.map_some]

end Sweeps

/-! ## Checking every session -/

theorem sweeps_onChannel_checkLive (handle : Handle) (state : State Session) :
    Sweeps (fun session => (session.checkLive state.clock).1) [handle] state
      (state.onChannel handle false (Channel.checkLive state.clock)).1 := by
  cases known : state.channels[handle]? with
  | none =>
      simp only [onChannel, known]
      exact .of_unknown _ known
  | some session =>
      simp only [onChannel, known]
      exact .put (fun session => (session.checkLive state.clock).1) known

theorem sweeps_connectedCount (keyed : state.Keyed) :
    Sweeps (fun session => (session.checkLive state.clock).1) state.registry.handles state
      state.connectedCount.1 := by
  refine Sweeps.foldl ?_ keyed.nodup_handles (state, 0) rfl
  intro pair handle now
  rw [← now]
  exact sweeps_onChannel_checkLive handle pair.1

theorem sweeps_survey (keyed : state.Keyed) :
    Sweeps (fun session => (session.checkLive state.clock).1) state.registry.handles state
      state.survey.1 := by
  refine Sweeps.foldl ?_ keyed.nodup_handles (state, []) rfl
  rintro ⟨between, entries⟩ handle now
  rw [← now]
  cases known : between.channels[handle]? with
  | none =>
      simp only [known]
      exact .of_unknown _ known
  | some session =>
      simp only [known]
      exact .put (fun session => (session.checkLive between.clock).1) known

/-- A step changes nothing but sessions. -/
def OnlySessions (before after : State Session) : Prop :=
  after = { before with channels := after.channels }

theorem OnlySessions.trans (first : before.OnlySessions between)
    (second : between.OnlySessions after) : before.OnlySessions after := by
  rw [OnlySessions, second, first]

theorem onlySessions_foldl {β : Type} {step : State Session × β → Handle → State Session × β}
    (one : ∀ (pair : State Session × β) handle, pair.1.OnlySessions (step pair handle).1)
    (handles : List Handle) (pair : State Session × β) :
    pair.1.OnlySessions (handles.foldl step pair).1 := by
  induction handles generalizing pair with
  | nil => rfl
  | cons handle rest hypothesis => exact (one pair handle).trans (hypothesis (step pair handle))

theorem onlySessions_onChannel {α : Type} (handle : Handle) (default : α)
    (act : Session → Session × α) (state : State Session) :
    state.OnlySessions (state.onChannel handle default act).1 := by
  simp only [onChannel]
  split <;> rfl

theorem onlySessions_connectedCount (state : State Session) :
    state.OnlySessions state.connectedCount.1 := by
  refine onlySessions_foldl ?_ _ (state, 0)
  intro pair handle
  exact onlySessions_onChannel handle false _ pair.1

theorem onlySessions_survey (state : State Session) : state.OnlySessions state.survey.1 := by
  refine onlySessions_foldl ?_ _ (state, [])
  intro pair handle
  dsimp only
  split <;> rfl

end State

end TunnelServer
