import TunnelServer.Proofs.Run.Replacement
import TunnelServer.Server.Serve

/-!
# How a server ends

A server that could load its directory deals with one event after the other.  A shutdown and the end
of all commands end it well.  After any other command, and when no command came for a while, it looks
after its workers, and one that has stopped ends it with an error.  Nothing else ends it; in
particular a reload that fails is worth no more than a while without a command.  When a server ends,
every mapped session loses its peer, and no command that comes later has any effect.

The state in which a server ends is that of the moment at which all mapped sessions have been closed,
and closing them is one step.  What a worker that was not told yet still has in hand then, such as a
packet that brings a peer back, comes after that moment and is left out.
-/

namespace TunnelServer

/-! ## Closing every mapped session -/

namespace State

variable {handle : Handle} {identity : Identity}

theorem getElem?_closeEach (handles : List Handle) (handle : Handle) (state : State Session) :
    (handles.foldl (fun state handle => state.close handle) state).channels[handle]? =
      if handle ∈ handles then state.channels[handle]?.map Session.close
      else state.channels[handle]? := by
  induction handles generalizing state with
  | nil => rfl
  | cons closed rest inductionHypothesis =>
      rw [List.foldl_cons, inductionHypothesis]
      by_cases same : closed = handle
      · subst same
        -- A session that comes up again has no link any more.
        rw [getElem?_close, Option.map_map, if_pos List.mem_cons_self]
        exact ite_self _
      · rw [getElem?_close_of_ne same]
        simp only [List.mem_cons, Ne.symm same, false_or]

theorem registry_closeAll (state : State Session) : state.closeAll.registry = state.registry :=
  view_foldl State.registry _ (fun state handle => registry_close handle state) _ state

theorem find?_closeAll (identity : Identity) (state : State Session) :
    state.closeAll.find? identity =
      (state.find? identity).map fun (handle, session) => (handle, session.close) := by
  simp only [find?, registry_closeAll]
  cases mapped : state.registry.lookup identity with
  | none => rfl
  | some handle =>
      have member : handle ∈ state.registry.handles := Registry.mem_handles_iff.mpr ⟨_, mapped⟩
      simp only [closeAll, getElem?_closeEach, if_pos member, Option.map_map]
      rfl

end State

namespace Server

/-! ## What events come to -/

/-- What an event makes of the state of a server that goes on. -/
def Event.apply (link : LocalLink) (ipv4Pop : Ipv4Address) (state : State Session) :
    Event → State Session
  | .command asked loaded => (state.obey ipv4Pop loaded asked).1
  | .packet bytes source => state.takePacket link.sink bytes source
  | .localRead bytes => state.takeRead link.unhandled bytes
  | .heartbeatPass => state.heartbeatPass.1
  | .elapsed nanos => { state with clock := state.clock.advance nanos }
  | .idle | .disconnected | .stopped _ _ => state

/-- The worker that an event stops. -/
def Event.stop? : Event → Option (Worker × Option Pipe.Fault)
  | stopped worker cause => some (worker, cause)
  | _ => none

/-- What events make of a server, one after the other. -/
def stateAfter (link : LocalLink) (ipv4Pop : Ipv4Address) (state : State Session)
    (events : List Event) : State Session :=
  events.foldl (Event.apply link ipv4Pop) state

/-- The workers that events stop, with what brought each of them down. -/
def stoppedIn (events : List Event) : List (Worker × Option Pipe.Fault) :=
  events.filterMap Event.stop?

/-- A worker stops for a cause.  It stops but once. -/
def Stops (events : List Event) (worker : Worker) (cause : Option Pipe.Fault) : Prop :=
  ∃ before after, events = before ++ .stopped worker cause :: after ∧
    ∀ other, .stopped worker other ∉ before

/-- Of the workers that have stopped, one is found: the first in the order in which they were
started, whichever stopped first. -/
structure Finds (events : List Event) (worker : Worker) (cause : Option Pipe.Fault) : Prop where
  stops : Stops events worker cause
  first : ∃ earlier later, Worker.all = earlier ++ worker :: later ∧
    ∀ other ∈ earlier, ∀ cause, .stopped other cause ∉ events

/-- What ends a server that has dealt with some events before, and with which result. -/
inductive Ends (before : List Event) : Event → Except Error Unit → Prop where
  | shutdown (loaded : Except DirectoryError (List TunnelRecord)) :
      Ends before (.command .shutdown loaded) (.ok ())
  | disconnected : Ends before .disconnected (.ok ())
  | command {command : Command} {worker : Worker} {cause : Option Pipe.Fault}
      (goesOn : command ≠ .shutdown) (loaded : Except DirectoryError (List TunnelRecord))
      (finds : Finds before worker cause) :
      Ends before (.command command loaded) (.error (.workerStopped worker cause))
  | idle {worker : Worker} {cause : Option Pipe.Fault} (finds : Finds before worker cause) :
      Ends before .idle (.error (.workerStopped worker cause))

/-- None of the events ends a server that deals with them. -/
def GoesOn (events : List Event) : Prop :=
  ∀ before event after, events = before ++ event :: after → ∀ result, ¬Ends before event result

/-- A server that has dealt with events. -/
def Serving.after (link : LocalLink) (ipv4Pop : Ipv4Address) (state : State Session)
    (events : List Event) : Serving where
  state := stateAfter link ipv4Pop state events
  stopped := stoppedIn events

variable {link : LocalLink} {ipv4Pop : Ipv4Address} {state : State Session}
variable {before events : List Event} {event : Event} {result : Except Error Unit}
variable {worker : Worker} {cause : Option Pipe.Fault}

/-! ## Workers that have stopped -/

theorem mem_stoppedIn_iff : (worker, cause) ∈ stoppedIn events ↔ .stopped worker cause ∈ events := by
  rw [stoppedIn, List.mem_filterMap]
  constructor
  · rintro ⟨event, member, stops⟩
    cases event with
    | stopped => cases stops; exact member
    | _ => cases stops
  · intro member
    exact ⟨_, member, rfl⟩

theorem any_stop?_iff : (event.stop?.any fun entry => entry.1 = worker) = true ↔
    ∃ cause, event = .stopped worker cause := by
  cases event <;> simp [Event.stop?]

theorem find?_stoppedIn_eq_some_iff {found : Worker} :
    (stoppedIn events).find? (fun entry => entry.1 = worker) = some (found, cause) ↔
      found = worker ∧ Stops events worker cause := by
  rw [stoppedIn, List.find?_filterMap, Option.bind_eq_some_iff]
  constructor
  · rintro ⟨event, first, stops⟩
    rcases List.find?_eq_some_iff_append.mp first with ⟨holds, before, after, split, others⟩
    rcases any_stop?_iff.mp holds with ⟨cause, rfl⟩
    cases stops
    refine ⟨rfl, before, after, split, ?_⟩
    intro other member
    have refused := others _ member
    rw [any_stop?_iff.mpr ⟨other, rfl⟩] at refused
    cases refused
  · rintro ⟨rfl, before, after, split, others⟩
    refine ⟨.stopped found cause, ?_, rfl⟩
    rw [List.find?_eq_some_iff_append]
    refine ⟨any_stop?_iff.mpr ⟨cause, rfl⟩, before, after, split, ?_⟩
    intro event member
    rw [Bool.not_eq_true', Bool.eq_false_iff, Ne, any_stop?_iff]
    rintro ⟨other, rfl⟩
    exact others other member

theorem find?_stoppedIn_eq_none_iff :
    (stoppedIn events).find? (fun entry => entry.1 = worker) = none ↔
      ∀ cause, .stopped worker cause ∉ events := by
  rw [List.find?_eq_none]
  constructor
  · intro others cause member
    exact others _ (mem_stoppedIn_iff.mpr member) (decide_eq_true rfl)
  · rintro absent ⟨other, cause⟩ member same
    rw [decide_eq_true_iff] at same
    subst same
    exact absent cause (mem_stoppedIn_iff.mp member)

theorem findSome?_stoppedIn_eq_some_iff :
    (Worker.all.findSome? fun worker =>
        (stoppedIn events).find? fun entry => entry.1 = worker) = some (worker, cause) ↔
      Finds events worker cause := by
  rw [List.findSome?_eq_some_iff]
  constructor
  · rintro ⟨earlier, found, later, order, stops, none⟩
    rcases find?_stoppedIn_eq_some_iff.mp stops with ⟨rfl, stops⟩
    exact ⟨stops, earlier, later, order, fun other member =>
      find?_stoppedIn_eq_none_iff.mp (none other member)⟩
  · rintro ⟨stops, earlier, later, order, none⟩
    exact ⟨earlier, worker, later, order, find?_stoppedIn_eq_some_iff.mpr ⟨rfl, stops⟩,
      fun other member => find?_stoppedIn_eq_none_iff.mpr (none other member)⟩

/-- Of workers that have stopped one is found, since all workers are looked after. -/
theorem exists_finds (stopped : .stopped worker cause ∈ events) :
    ∃ worker cause, Finds events worker cause := by
  cases found : Worker.all.findSome? fun worker =>
      (stoppedIn events).find? fun entry => entry.1 = worker with
  | none =>
      rw [List.findSome?_eq_none_iff] at found
      have unstopped := find?_stoppedIn_eq_none_iff.mp (found worker worker.mem_all)
      exact absurd stopped (unstopped cause)
  | some entry => exact ⟨entry.1, entry.2, findSome?_stoppedIn_eq_some_iff.mp found⟩

variable {serving : Serving}

theorem firstStopped?_eq_some_iff (kept : serving.stopped = stoppedIn events) :
    serving.firstStopped? = some (worker, cause) ↔ Finds events worker cause := by
  rw [Serving.firstStopped?, kept, findSome?_stoppedIn_eq_some_iff]

theorem lookAfter_of_finds (kept : serving.stopped = stoppedIn events)
    (finds : Finds events worker cause) :
    serving.lookAfter = .ended serving.state.closeAll (.error (.workerStopped worker cause)) := by
  rw [Serving.lookAfter, (firstStopped?_eq_some_iff kept).mpr finds]
  rfl

theorem lookAfter_of_not_finds (kept : serving.stopped = stoppedIn events)
    (none : ∀ worker cause, ¬ Finds events worker cause) :
    serving.lookAfter = .running serving := by
  rw [Serving.lookAfter]
  split
  · rename_i found
    exact absurd ((firstStopped?_eq_some_iff kept).mp found) (none _ _)
  · rfl

/-! ## One event -/

theorem stateAfter_concat (event : Event) :
    stateAfter link ipv4Pop state (events ++ [event]) =
      event.apply link ipv4Pop (stateAfter link ipv4Pop state events) := by
  rw [stateAfter, List.foldl_concat]
  rfl

theorem after_concat_of_not_stops (silent : event.stop? = none) :
    Serving.after link ipv4Pop state (events ++ [event]) =
      ⟨event.apply link ipv4Pop (stateAfter link ipv4Pop state events), stoppedIn events⟩ := by
  rw [Serving.after, stateAfter_concat, stoppedIn, List.filterMap_append,
    List.filterMap_cons_none silent, List.filterMap_nil, List.append_nil, stoppedIn]

theorem after_concat_stopped (worker : Worker) (cause : Option Pipe.Fault) :
    Serving.after link ipv4Pop state (events ++ [.stopped worker cause]) =
      ⟨stateAfter link ipv4Pop state events, stoppedIn events ++ [(worker, cause)]⟩ := by
  rw [Serving.after, stateAfter_concat, stoppedIn, List.filterMap_append]
  rfl

theorem step_of_ends (ends : Ends events event result) :
    (Serving.after link ipv4Pop state events).step link ipv4Pop event =
      .ended (stateAfter link ipv4Pop state (events ++ [event])).closeAll result := by
  rw [stateAfter_concat]
  cases ends with
  | shutdown => rfl
  | disconnected => rfl
  | command goesOn loaded finds =>
      rename_i command worker cause
      cases command with
      | shutdown => exact absurd rfl goesOn
      | reload => exact lookAfter_of_finds rfl finds
      | dump => exact lookAfter_of_finds rfl finds
  | idle finds => exact lookAfter_of_finds rfl finds

theorem step_of_not_ends (none : ∀ result, ¬Ends events event result) :
    (Serving.after link ipv4Pop state events).step link ipv4Pop event =
      .running (Serving.after link ipv4Pop state (events ++ [event])) := by
  cases event with
  | command asked loaded =>
      rw [after_concat_of_not_stops rfl]
      cases asked with
      | shutdown => exact absurd (.shutdown loaded) (none _)
      | reload =>
          exact lookAfter_of_not_finds rfl fun worker cause finds =>
            none _ (.command Command.noConfusion loaded finds)
      | dump =>
          exact lookAfter_of_not_finds rfl fun worker cause finds =>
            none _ (.command Command.noConfusion loaded finds)
  | idle =>
      rw [after_concat_of_not_stops rfl]
      exact lookAfter_of_not_finds rfl fun worker cause finds => none _ (.idle finds)
  | disconnected => exact absurd .disconnected (none _)
  | stopped worker cause => rw [after_concat_stopped]; rfl
  | _ => rw [after_concat_of_not_stops rfl]; rfl

/-! ## Many events -/

theorem goesOn_nil : GoesOn [] := by
  intro before event after split
  exact absurd split (List.append_ne_nil_of_right_ne_nil before (List.cons_ne_nil event after)).symm

theorem goesOn_concat_iff :
    GoesOn (events ++ [event]) ↔ GoesOn events ∧ ∀ result, ¬Ends events event result := by
  constructor
  · intro goesOn
    refine ⟨?_, goesOn events event [] rfl⟩
    intro before earlier after split
    exact goesOn before earlier (after ++ [event]) (by rw [split, List.append_assoc]; rfl)
  · rintro ⟨goesOn, last⟩ before earlier after split
    rcases List.eq_nil_or_concat after with rfl | ⟨front, final, rfl⟩
    · obtain ⟨rfl, same⟩ := List.append_inj' split rfl
      cases same
      exact last
    · have within : events ++ [event] = (before ++ earlier :: front) ++ [final] := by
        simpa using split
      exact goesOn before earlier front (List.append_inj' within rfl).1

/-- Events that do not go on have one that ends them, and the first such one comes after events that go
on. -/
theorem exists_ends_of_not_goesOn (halts : ¬GoesOn events) :
    ∃ before event after result, events = before ++ event :: after ∧ GoesOn before ∧
      Ends before event result := by
  induction events using List.reverseRecOn with
  | nil => exact absurd goesOn_nil halts
  | append_singleton events event inductionHypothesis =>
      by_cases goesOn : GoesOn events
      · have last : ¬∀ result, ¬Ends events event result := fun none =>
          halts (goesOn_concat_iff.mpr ⟨goesOn, none⟩)
        push Not at last
        rcases last with ⟨result, ends⟩
        exact ⟨events, event, [], result, rfl, goesOn, ends⟩
      · rcases inductionHypothesis goesOn with ⟨before, earlier, after, result, split, rest⟩
        exact ⟨before, earlier, after ++ [event], result, by rw [split, List.append_assoc]; rfl, rest⟩

/-- Once a worker has stopped, the next while without a command ends the server. -/
theorem not_goesOn_idle (stopped : .stopped worker cause ∈ events) :
    ¬GoesOn (events ++ [.idle]) := by
  intro goesOn
  rcases exists_finds stopped with ⟨worker, cause, finds⟩
  exact (goesOn_concat_iff.mp goesOn).2 _ (.idle finds)

/-- Once a worker has stopped, the next command ends the server, whatever it is. -/
theorem not_goesOn_command (stopped : .stopped worker cause ∈ events) (command : Command)
    (loaded : Except DirectoryError (List TunnelRecord)) :
    ¬GoesOn (events ++ [.command command loaded]) := by
  intro goesOn
  have last := (goesOn_concat_iff.mp goesOn).2
  by_cases told : command = .shutdown
  · subst told
    exact last _ (.shutdown loaded)
  · rcases exists_finds stopped with ⟨worker, cause, finds⟩
    exact last _ (.command told loaded finds)

theorem steps_append (serving : Serving) (events later : List Event) :
    serving.steps link ipv4Pop (events ++ later) =
      match serving.steps link ipv4Pop events with
      | .running reached => reached.steps link ipv4Pop later
      | .ended state result => .ended state result := by
  induction events generalizing serving with
  | nil => rfl
  | cons event rest inductionHypothesis =>
      rw [List.cons_append, Serving.steps, Serving.steps]
      cases serving.step link ipv4Pop event with
      | running reached => exact inductionHypothesis reached
      | ended state result => rfl

theorem steps_of_goesOn (goesOn : GoesOn events) :
    (Serving.after link ipv4Pop state []).steps link ipv4Pop events =
      .running (Serving.after link ipv4Pop state events) := by
  induction events using List.reverseRecOn with
  | nil => rfl
  | append_singleton events event inductionHypothesis =>
      rcases goesOn_concat_iff.mp goesOn with ⟨earlier, last⟩
      rw [steps_append, inductionHypothesis earlier]
      simp only [Serving.steps, step_of_not_ends last]

theorem steps_of_ends (goesOn : GoesOn before) (ends : Ends before event result)
    (later : List Event) :
    (Serving.after link ipv4Pop state []).steps link ipv4Pop (before ++ event :: later) =
      .ended (stateAfter link ipv4Pop state (before ++ [event])).closeAll result := by
  rw [steps_append, steps_of_goesOn goesOn]
  simp only [Serving.steps, step_of_ends ends]

theorem exists_ended_of_not_goesOn (halts : ¬GoesOn events) :
    ∃ final result, (Serving.after link ipv4Pop state []).steps link ipv4Pop events =
      .ended final result := by
  rcases exists_ends_of_not_goesOn halts with ⟨before, event, later, result, rfl, goesOn, ends⟩
  exact ⟨_, result, steps_of_ends goesOn ends later⟩

theorem steps_eq_running_iff :
    (Serving.after link ipv4Pop state []).steps link ipv4Pop events = .running serving ↔
      GoesOn events ∧ serving = Serving.after link ipv4Pop state events := by
  constructor
  · intro running
    by_cases goesOn : GoesOn events
    · rw [steps_of_goesOn goesOn] at running
      exact ⟨goesOn, (Progress.running.inj running).symm⟩
    · rcases exists_ends_of_not_goesOn goesOn with ⟨before, event, later, result, rfl, earlier, ends⟩
      rw [steps_of_ends earlier ends] at running
      cases running
  · rintro ⟨goesOn, rfl⟩
    exact steps_of_goesOn goesOn

theorem steps_eq_ended_iff {final : State Session} :
    (Serving.after link ipv4Pop state []).steps link ipv4Pop events = .ended final result ↔
      ∃ before event later, events = before ++ event :: later ∧ GoesOn before ∧
        Ends before event result ∧
        final = (stateAfter link ipv4Pop state (before ++ [event])).closeAll := by
  constructor
  · intro ended
    by_cases goesOn : GoesOn events
    · rw [steps_of_goesOn goesOn] at ended
      cases ended
    · rcases exists_ends_of_not_goesOn goesOn with ⟨before, event, later, result, rfl, earlier, ends⟩
      rw [steps_of_ends earlier ends] at ended
      cases ended
      exact ⟨before, event, later, rfl, earlier, ends, rfl⟩
  · rintro ⟨before, event, later, rfl, goesOn, ends, rfl⟩
    exact steps_of_ends goesOn ends later

/-! ## Serving -/

theorem serve_of_loaded (records : List TunnelRecord) (events : List Event) (state : State Session) :
    serve link ipv4Pop (.ok records) events state =
      (Serving.after link ipv4Pop (state.reload ipv4Pop (.ok records)).1 []).steps link ipv4Pop
        events := rfl

theorem serve_append (loaded : Except DirectoryError (List TunnelRecord)) (events later : List Event)
    (state : State Session) :
    serve link ipv4Pop loaded (events ++ later) state =
      match serve link ipv4Pop loaded events state with
      | .running reached => reached.steps link ipv4Pop later
      | .ended state result => .ended state result := by
  cases loaded with
  | error cause => rfl
  | ok records => exact steps_append _ events later

/-- A reload that fails is worth a while without a command. -/
theorem step_failed_reload (cause : DirectoryError) (serving : Serving) :
    serving.step link ipv4Pop (.command .reload (.error cause)) =
      serving.step link ipv4Pop .idle := rfl

/-- A server whose directory does not load ends before anything happens.  Any other deals with events
in their order until the first one that ends it.  That is a shutdown or the end of all commands, which
end it well, or a worker that is found to have stopped after another command or after a while without
one; a worker that has stopped is found at the next opportunity.  No later command has any effect, and
a reload that fails neither ends a server nor changes it.  In the state in which a server ends the same
sessions are mapped as before, all of them without a peer. -/
theorem serve_until_ended (link : LocalLink) (ipv4Pop : Ipv4Address) (state : State Session) :
    (∀ cause events, serve link ipv4Pop (.error cause) events state =
      .ended state (.error (.directory cause))) ∧
    ∀ records events,
      (∀ serving, serve link ipv4Pop (.ok records) events state = .running serving ↔
        GoesOn events ∧
          serving = .after link ipv4Pop (state.reload ipv4Pop (.ok records)).1 events) ∧
      (∀ final result, serve link ipv4Pop (.ok records) events state = .ended final result ↔
        ∃ before event later last, events = before ++ event :: later ∧ GoesOn before ∧
          Ends before event result ∧
          last = stateAfter link ipv4Pop (state.reload ipv4Pop (.ok records)).1
            (before ++ [event]) ∧
          final = last.closeAll ∧
          ∀ identity handle session, last.find? identity = some (handle, session) →
            ∃ closed, final.find? identity = some (handle, closed) ∧
              closed = { session with link := none } ∧ closed.peer? = none) ∧
      (∀ worker cause, .stopped worker cause ∈ events →
        (∃ final result,
          serve link ipv4Pop (.ok records) (events ++ [.idle]) state = .ended final result) ∧
        ∀ command loaded, ∃ final result,
          serve link ipv4Pop (.ok records) (events ++ [.command command loaded]) state =
            .ended final result) ∧
      (∀ final result, serve link ipv4Pop (.ok records) events state = .ended final result →
        ∀ commands : List (Command × Except DirectoryError (List TunnelRecord)),
          serve link ipv4Pop (.ok records)
              (events ++ commands.map fun (command, loaded) => .command command loaded) state =
            .ended final result) ∧
      ∀ cause later,
        serve link ipv4Pop (.ok records) (events ++ .command .reload (.error cause) :: later) state =
          serve link ipv4Pop (.ok records) (events ++ .idle :: later) state := by
  refine ⟨fun cause events => rfl, fun records events => ⟨?_, ?_, ?_, ?_, ?_⟩⟩
  · intro serving
    rw [serve_of_loaded]
    exact steps_eq_running_iff
  · intro final result
    rw [serve_of_loaded, steps_eq_ended_iff]
    constructor
    · rintro ⟨before, event, later, split, goesOn, ends, rfl⟩
      refine ⟨before, event, later, _, split, goesOn, ends, rfl, rfl, ?_⟩
      intro identity handle session mapped
      rw [State.find?_closeAll, mapped]
      exact ⟨_, rfl, rfl, rfl⟩
    · rintro ⟨before, event, later, last, split, goesOn, ends, rfl, closed, -⟩
      exact ⟨before, event, later, split, goesOn, ends, closed⟩
  · intro worker cause stopped
    simp only [serve_of_loaded]
    refine ⟨exists_ended_of_not_goesOn (not_goesOn_idle stopped), fun command loaded => ?_⟩
    exact exists_ended_of_not_goesOn (not_goesOn_command stopped command loaded)
  · intro final result ended commands
    rw [serve_append, ended]
  · intro cause later
    simp only [serve_append, Serving.steps, step_failed_reload]

/-- When there is nothing more to read from the local network, the server ends as soon as no command
comes for a while, and a shutdown comes too late. -/
example (loaded : Except DirectoryError (List TunnelRecord)) :
    ∃ final, serve link ipv4Pop (.ok [])
      [.stopped .outbound none, .heartbeatPass, .idle, .command .shutdown loaded] state =
        .ended final (.error (.workerStopped .outbound none)) := ⟨_, rfl⟩

end Server

end TunnelServer
