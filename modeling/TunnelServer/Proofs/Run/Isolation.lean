import TunnelServer.Proofs.Run.Reachable

/-!
# Sessions that are not mapped

A session without a link that no identity is mapped to is out of the game: whatever happens that
does not install it or call it, the server does the same as with any other unlinked session in its
place.  So it has no part in what is sent, written, counted or answered.  That is shown for each
operation by exchanging the session before and after.
-/

namespace TunnelServer.State

variable {handle : Handle} {other : Session} {state : State Session}

namespace Unmapped

theorem ne_of_mem (unmapped : state.Unmapped handle) {mapped : Handle}
    (member : mapped ∈ state.registry.handles) : mapped ≠ handle := by
  rintro rfl
  exact unmapped.2 member

theorem ne_of_lookup (unmapped : state.Unmapped handle) {identity : Identity} {mapped : Handle}
    (lookup : state.registry.lookup identity = some mapped) : mapped ≠ handle :=
  unmapped.ne_of_mem (Registry.mem_handles_iff.mpr ⟨identity, lookup⟩)

theorem ne_of_find? (unmapped : state.Unmapped handle) {identity : Identity} {mapped : Handle}
    {session : Session} (found : state.find? identity = some (mapped, session)) :
    mapped ≠ handle :=
  unmapped.ne_of_lookup (find?_eq_some_iff.mp found).1

theorem stays (unmapped : state.Unmapped handle) {after : State Session}
    (moves : Moves True (fun _ => False) state after) : after.Unmapped handle :=
  unmapped.moves id moves

theorem put (unmapped : state.Unmapped handle) (one : Handle) (session : Session) :
    (state.put one session).Unmapped handle := by
  refine ⟨?_, unmapped.2⟩
  rw [channels_put, List.length_set]
  exact unmapped.1

theorem count (unmapped : state.Unmapped handle) (bump : Counters → Counters) :
    (state.count bump).Unmapped handle := unmapped

end Unmapped

/-! ## Repetition -/

theorem foldl_put {α : Type} {step : State Session → α → State Session} (items : List α)
    (unmapped : state.Unmapped handle)
    (keeps : ∀ (state : State Session), ∀ item ∈ items, state.Unmapped handle →
      (step state item).Unmapped handle)
    (apart : ∀ (state : State Session), ∀ item ∈ items, state.Unmapped handle →
      step (state.put handle other) item = (step state item).put handle other) :
    items.foldl step (state.put handle other) = (items.foldl step state).put handle other := by
  induction items generalizing state with
  | nil => rfl
  | cons item rest hypothesis =>
      rw [List.foldl_cons, List.foldl_cons, apart state item (by simp) unmapped]
      refine hypothesis (keeps state item (by simp) unmapped) ?_ ?_
      · intro state later member
        exact keeps state later (by simp [member])
      · intro state later member
        exact apart state later (by simp [member])

/-- The same with something reported on the way. -/
theorem foldl_put_fst {α β : Type} {step : State Session × β → α → State Session × β}
    (items : List α) {report : β} (unmapped : state.Unmapped handle)
    (keeps : ∀ (state : State Session) (report : β), ∀ item ∈ items, state.Unmapped handle →
      (step (state, report) item).1.Unmapped handle)
    (apart : ∀ (state : State Session) (report : β), ∀ item ∈ items, state.Unmapped handle →
      step (state.put handle other, report) item =
        (step (state, report) item).map (State.put handle other) id) :
    items.foldl step (state.put handle other, report) =
      (items.foldl step (state, report)).map (State.put handle other) id := by
  induction items generalizing state report with
  | nil => rfl
  | cons item rest hypothesis =>
      rw [List.foldl_cons, List.foldl_cons, apart state report item (by simp) unmapped]
      refine hypothesis (keeps state report item (by simp) unmapped) ?_ ?_
      · intro state report later member
        exact keeps state report later (by simp [member])
      · intro state report later member
        exact apart state report later (by simp [member])

/-! ## One session -/

theorem getElem?_put_of_ne {one : Handle} (different : one ≠ handle) :
    (state.put handle other).channels[one]? = state.channels[one]? := by
  rw [channels_put, List.getElem?_set_ne (Ne.symm different)]

theorem getElem?_put (unmapped : state.Unmapped handle) :
    (state.put handle other).channels[handle]? = some other := by
  rw [channels_put, List.getElem?_set_self unmapped.1]

theorem find?_put (unmapped : state.Unmapped handle) (identity : Identity) :
    (state.put handle other).find? identity = state.find? identity := by
  simp only [find?, registry_put]
  cases lookup : state.registry.lookup identity with
  | none => rfl
  | some mapped => simp only [getElem?_put_of_ne (unmapped.ne_of_lookup lookup)]

theorem onChannel_put {α : Type} {one : Handle} (different : one ≠ handle) (default : α)
    (act : Session → Session × α) :
    (state.put handle other).onChannel one default act =
      (state.onChannel one default act).map (State.put handle other) id := by
  simp only [onChannel, getElem?_put_of_ne different]
  cases state.channels[one]? with
  | none => rfl
  | some session =>
      simp only [Prod.map, id]
      rw [put_comm (Ne.symm different)]

theorem close_put {one : Handle} (different : one ≠ handle) :
    (state.put handle other).close one = (state.close one).put handle other := by
  simp only [close, onChannel_put different, Prod.map]

/-! ## Registration -/

theorem install_put (unmapped : state.Unmapped handle) {one : Handle} (different : one ≠ handle) :
    (state.put handle other).install one =
      (state.install one).map (State.put handle other) id := by
  simp only [install, getElem?_put_of_ne different, registry_put]
  cases state.channels[one]? with
  | none => rfl
  | some session =>
      dsimp only
      cases lookup : state.registry.lookup (Channel.identity session) with
      | none => rfl
      | some previous =>
          dsimp only
          split
          · rfl
          · have closed : (State.put handle other { state with
                  registry := state.registry.insert (Channel.identity session) one }).close previous =
                _ := close_put (unmapped.ne_of_lookup lookup)
            exact congrArg (fun state => (state, some previous)) closed

theorem installOrReplace_put (unmapped : state.Unmapped handle) {one : Handle}
    (different : one ≠ handle) (sink : Sink) (peer : SocketAddress) :
    (state.put handle other).installOrReplace one sink peer =
      (state.installOrReplace one sink peer).map (State.put handle other) id := by
  simp only [installOrReplace, install_put unmapped different, Prod.map, clock_put,
    onChannel_put different, id]
  split <;> rfl

theorem remove_put (unmapped : state.Unmapped handle) (identity : Identity) :
    (state.put handle other).remove identity =
      (state.remove identity).map (State.put handle other) id := by
  simp only [remove, registry_put]
  cases lookup : state.registry.lookup identity with
  | none => rfl
  | some mapped =>
      have closed : (State.put handle other { state with
          registry := state.registry.erase identity }).close mapped = _ :=
        close_put (unmapped.ne_of_lookup lookup)
      exact congrArg (fun state => (state, some mapped)) closed

theorem removeEach_put (unmapped : state.Unmapped handle) (identities : List Identity) :
    (state.put handle other).removeEach identities =
      (state.removeEach identities).put handle other := by
  refine foldl_put identities unmapped ?_ ?_
  · intro state identity _ unmapped
    exact unmapped.stays (moves_remove identity state)
  · intro state identity _ unmapped
    simp only [remove_put unmapped, Prod.map]

theorem removeAll_put (unmapped : state.Unmapped handle) :
    (state.put handle other).removeAll = state.removeAll.map (State.put handle other) id := by
  simp only [removeAll, registry_put, removeEach_put unmapped, Prod.map, id]

theorem installEach_put (unmapped : state.Unmapped handle) {handles : List Handle}
    (absent : handle ∉ handles) :
    (state.put handle other).installEach handles =
      (state.installEach handles).put handle other := by
  have apart : ∀ one ∈ handles, one ≠ handle := by
    rintro one member rfl
    exact absent member
  refine foldl_put handles unmapped ?_ ?_
  · intro state one member unmapped
    have moves : Moves True (one = ·) state (state.install one).1 := moves_install rfl state
    exact unmapped.moves (apart one member) moves
  · intro state one member unmapped
    simp only [install_put unmapped (apart one member), Prod.map]

theorem identitiesOf_put {handles : List Handle} (absent : handle ∉ handles) :
    (state.put handle other).identitiesOf handles = state.identitiesOf handles := by
  simp only [identitiesOf]
  induction handles with
  | nil => rfl
  | cons one rest hypothesis =>
      rw [List.mem_cons, not_or] at absent
      rw [List.filterMap_cons, List.filterMap_cons, hypothesis absent.2,
        getElem?_put_of_ne (Ne.symm absent.1)]

theorem replaceAll_put (unmapped : state.Unmapped handle) {handles : List Handle}
    (absent : handle ∉ handles) :
    (state.put handle other).replaceAll handles =
      (state.replaceAll handles).map (State.put handle other) id := by
  have moves : Moves True (· ∈ handles) state (state.installEach handles) :=
    moves_installEach (fun one member => member) state
  have installed := unmapped.moves absent moves
  simp only [replaceAll, identitiesOf_put absent, installEach_put unmapped absent, registry_put,
    removeEach_put installed, Prod.map, id]

theorem connectedCount_put (unmapped : state.Unmapped handle) :
    (state.put handle other).connectedCount =
      state.connectedCount.map (State.put handle other) id := by
  have apart : ∀ one ∈ state.registry.handles, one ≠ handle := fun one => unmapped.ne_of_mem
  refine foldl_put_fst state.registry.handles unmapped ?_ ?_
  · intro state connected one _ unmapped
    exact unmapped.stays (moves_onChannel fun session _ => session.changes_checkLive)
  · intro state connected one member _
    simp only [clock_put, onChannel_put (apart one member)]
    rfl

/-! ## What only goes out -/

theorem countRefusal_put (error : ChannelError) :
    (state.put handle other).countRefusal error =
      (state.countRefusal error).put handle other := by
  simp only [countRefusal]
  split <;> rfl

theorem perform_put (action : Action) :
    (state.put handle other).perform action = (state.perform action).put handle other := by
  cases action with
  | nothing => rfl
  | deliver payload sink =>
      by_cases down : sink ∈ state.outages.sinks
      · simp only [perform_deliver, outages_put, down, if_true]
        rfl
      · simp only [perform_deliver, outages_put, down, if_false]
        rfl

theorem passUnhandled_put (unhandled : Option Sink) (datagram : Bytes) :
    (state.put handle other).passUnhandled unhandled datagram =
      (state.passUnhandled unhandled datagram).put handle other := by
  cases unhandled with
  | none => rfl
  | some sink =>
      by_cases down : sink ∈ state.outages.sinks
      · simp only [passUnhandled_some, outages_put, down, if_true]
        rfl
      · simp only [passUnhandled_some, outages_put, down, if_false]
        rfl

theorem dispatch_put (packet : Transmission) :
    (state.put handle other).dispatch packet = (state.dispatch packet).put handle other := by
  by_cases down : packet.peer ∈ state.outages.peers
  · simp only [dispatch_eq, outages_put, down, if_true]
    rfl
  · simp only [dispatch_eq, outages_put, down, if_false]
    rfl

theorem dispatchHeartbeat_put (packet : Transmission) (report : PassReport) :
    (state.put handle other).dispatchHeartbeat packet report =
      (state.dispatchHeartbeat packet report).map (State.put handle other) id := by
  by_cases down : packet.peer ∈ state.outages.peers
  · simp only [dispatchHeartbeat_eq, outages_put, down, if_true]
    rfl
  · simp only [dispatchHeartbeat_eq, outages_put, down, if_false]
    rfl

/-! ## Packets, reads and heartbeats -/

theorem takePacket_put (unmapped : state.Unmapped handle) (localSink : Sink) (packet : Bytes)
    (source : SocketAddress) :
    (state.put handle other).takePacket localSink packet source =
      (state.takePacket localSink packet source).put handle other := by
  simp only [takePacket, count_put, clock_put, clock_count, find?_put (unmapped.count _),
    find?_count]
  cases Packet.claimedSender? packet state.clock.epoch with
  | none => rfl
  | some sender =>
      cases found : state.find? sender with
      | none =>
          simp only [found]
      | some mapped =>
          rcases mapped with ⟨one, session⟩
          simp only [found, put_comm (unmapped.ne_of_find? found).symm]
          split
          · exact perform_put _
          · exact countRefusal_put _

theorem route_put (unmapped : state.Unmapped handle) (unhandled : Option Sink)
    (datagram : Bytes) :
    (state.put handle other).route unhandled datagram =
      (state.route unhandled datagram).put handle other := by
  have found : (fun identity => (state.put handle other).find? identity) =
      fun identity => state.find? identity := funext (find?_put unmapped)
  simp only [route, found, clock_put]
  split
  · exact passUnhandled_put unhandled datagram
  · rename_i mapped session present
    rcases Option.bind_eq_some_iff.mp present with ⟨destination, -, lookup⟩
    have different := (unmapped.ne_of_find? lookup).symm
    split
    · rw [put_comm different]
      exact passUnhandled_put unhandled datagram
    · rw [put_comm different]
      split
      · exact dispatch_put _
      · exact countRefusal_put _

theorem takeRead_put (unmapped : state.Unmapped handle) (unhandled : Option Sink)
    (bytes : Bytes) :
    (state.put handle other).takeRead unhandled bytes =
      (state.takeRead unhandled bytes).put handle other := by
  simp only [takeRead]
  split
  · rfl
  · refine foldl_put _ unmapped ?_ ?_
    · intro state datagram _ unmapped
      exact unmapped.stays (moves_route unhandled datagram state)
    · intro state datagram _ unmapped
      exact route_put unmapped unhandled datagram

theorem takeStream_put (unmapped : state.Unmapped handle) (unhandled : Option Sink)
    (stopping : Bool) (input : Pipe.Input) :
    (state.put handle other).takeStream unhandled stopping input =
      (state.takeStream unhandled stopping input).map (State.put handle other) id := by
  simp only [takeStream]
  split
  · rfl
  · refine congrArg (fun after => (after, (Pipe.frames readBuffer input).2)) ?_
    refine foldl_put _ unmapped ?_ ?_
    · intro state read _ unmapped
      exact unmapped.stays (moves_takeRead unhandled read state)
    · intro state read _ unmapped
      exact takeRead_put unmapped unhandled read

theorem visit_put {one : Handle} (different : one ≠ handle) (report : PassReport) :
    (state.put handle other).visit one report =
      (state.visit one report).map (State.put handle other) id := by
  simp only [visit, getElem?_put_of_ne different, clock_put]
  cases state.channels[one]? with
  | none => rfl
  | some session =>
      dsimp only
      split
      · rename_i live _
        simp only [visitConnected, clock_put, put_comm (Ne.symm different)]
        split
        · split
          · exact dispatchHeartbeat_put _ _
          · exact congrArg (fun after => (after, _)) (countRefusal_put _)
        · rfl
      · rw [put_comm (Ne.symm different)]
        split <;> rfl

theorem heartbeatPass_put (unmapped : state.Unmapped handle) :
    (state.put handle other).heartbeatPass =
      state.heartbeatPass.map (State.put handle other) id := by
  have apart : ∀ one ∈ state.registry.handles, one ≠ handle := fun one => unmapped.ne_of_mem
  refine foldl_put_fst state.registry.handles unmapped ?_ ?_
  · intro state report one _ unmapped
    exact unmapped.stays (moves_visit one report state)
  · intro state report one member _
    exact visit_put (apart one member) report

theorem survey_put (unmapped : state.Unmapped handle) :
    (state.put handle other).survey = state.survey.map (State.put handle other) id := by
  have apart : ∀ one ∈ state.registry.handles, one ≠ handle := fun one => unmapped.ne_of_mem
  refine foldl_put_fst state.registry.handles unmapped ?_ ?_
  · intro state entries one _ unmapped
    dsimp only
    split
    · exact unmapped
    · exact unmapped.put _ _
  · intro state entries one member _
    simp only [getElem?_put_of_ne (apart one member), clock_put]
    split
    · rfl
    · simp only [put_comm (apart one member).symm]
      rfl

/-! ## New sessions -/

theorem add_put (bound : handle < state.channels.length) (session : Session) :
    (state.put handle other).add session =
      (state.add session).map (State.put handle other) id := by
  simp only [add, put, List.length_set, Prod.map, id, List.set_append_left _ _ bound]

theorem reload_put (unmapped : state.Unmapped handle) (ipv4Pop : Ipv4Address)
    (loaded : Except DirectoryError (List TunnelRecord)) :
    (state.put handle other).reload ipv4Pop loaded =
      (state.reload ipv4Pop loaded).map (State.put handle other) id := by
  cases loaded with
  | error error => rfl
  | ok records =>
      have old : handle ∉
          List.range' state.channels.length (sessionsOf ipv4Pop state.clock records).length := by
        intro member
        exact Nat.not_le.mpr unmapped.1 (List.mem_range'_1.mp member).1
      have grown : Unmapped handle { state with
          channels := state.channels ++ sessionsOf ipv4Pop state.clock records } := by
        refine ⟨?_, unmapped.2⟩
        rw [List.length_append]
        exact Nat.lt_add_right _ unmapped.1
      simp only [reload, channels_put, List.length_set, clock_put,
        ← List.set_append_left handle other unmapped.1]
      let answer (replaced : State Session × Nat) :
          State Session × Except DirectoryError ReloadReport :=
        (replaced.1, .ok ⟨replaced.2,
          records.length - (sessionsOf ipv4Pop state.clock records).length⟩)
      exact congrArg answer (replaceAll_put grown old)

end TunnelServer.State

namespace TunnelServer

/-- A session is there without a link and without being mapped. -/
structure State.Idle (handle : Handle) (session : Session) (state : State Session) : Prop where
  unmapped : state.Unmapped handle
  known : state.channels[handle]? = some session
  unlinked : session.link = none

namespace Session

theorem checkLive_of_unlinked (session : Session) (clock : Clock)
    (unlinked : session.link = none) : session.checkLive clock = (session, false) := by
  simp only [checkLive, unlinked]

end Session

theorem State.onChannel_checkLive_of_unlinked {handle : Handle} {state : State Session}
    {session : Session} (known : state.channels[handle]? = some session)
    (unlinked : session.link = none) :
    state.onChannel handle false (Channel.checkLive state.clock) = (state, false) := by
  have unchanged : Channel.checkLive state.clock session = (session, false) :=
    session.checkLive_of_unlinked state.clock unlinked
  simp only [onChannel, known, unchanged, put_of_getElem? known]

namespace SessionOperation

open State

variable {handle : Handle} {other : Session} {state : State Session}

/-- What neither installs nor calls an idle session is done in the same way with any other unlinked
session in its place. -/
theorem apply_put {session : Session} (link : LocalLink) (operation : SessionOperation)
    (idle : state.Idle handle session) (uninstalled : ¬operation.Installs handle)
    (uncalled : ¬operation.Calls handle) (unlinked : other.link = none) :
    operation.apply link (state.put handle other) =
      (operation.apply link state).map (State.put handle other) id := by
  have unmapped := idle.unmapped
  cases operation with
  | common operation =>
      cases operation with
      | advance nanos => rfl
      | outages present => rfl
      | connect one sink peer =>
          have different : one ≠ handle := uncalled
          simp only [apply, Operation.apply, clock_put, onChannel_put different]
          rfl
      | reconnect one sink peer =>
          have different : one ≠ handle := uncalled
          simp only [apply, Operation.apply, clock_put, onChannel_put different]
          rfl
      | close one =>
          simp only [apply, Operation.apply]
          refine congrArg (fun after => (after, Outcome.done)) ?_
          by_cases same : one = handle
          · subst same
            rw [close_of_getElem? idle.known, close_of_getElem? (getElem?_put unmapped),
              Session.close_of_unlinked unlinked, put_put, put_put]
          · exact close_put same
      | checkLive one =>
          simp only [apply, Operation.apply, clock_put]
          by_cases same : one = handle
          · subst same
            have before := onChannel_checkLive_of_unlinked idle.known idle.unlinked
            have after := onChannel_checkLive_of_unlinked (getElem?_put unmapped) unlinked
            rw [clock_put] at after
            rw [before, after]
            rfl
          · rw [onChannel_put same]
            rfl
      | receive one packet =>
          have different : one ≠ handle := uncalled
          simp only [apply, Operation.apply, clock_put, onChannel_put different]
          rfl
      | send one datagram =>
          have different : one ≠ handle := uncalled
          simp only [apply, Operation.apply, clock_put, getElem?_put_of_ne different]
          split
          · rfl
          · rw [put_comm different.symm]
            rfl
      | install one =>
          simp only [apply, Operation.apply, install_put unmapped uninstalled]
          rfl
      | installOrReplace one sink peer =>
          simp only [apply, Operation.apply, installOrReplace_put unmapped uninstalled]
          rfl
      | remove identity =>
          simp only [apply, Operation.apply, remove_put unmapped]
          rfl
      | replaceAll handles =>
          simp only [apply, Operation.apply, replaceAll_put unmapped uninstalled]
          rfl
      | connectedCount =>
          simp only [apply, Operation.apply, connectedCount_put unmapped]
          rfl
      | removeAll =>
          simp only [apply, Operation.apply, removeAll_put unmapped]
          rfl
      | packet bytes source =>
          simp only [apply, Operation.apply, takePacket_put unmapped]
          rfl
      | localRead bytes =>
          simp only [apply, Operation.apply, takeRead_put unmapped]
          rfl
      | localStream stopping input =>
          simp only [apply, Operation.apply, takeStream_put unmapped]
          rfl
  | create record =>
      simp only [apply, clock_put]
      split
      · rfl
      · rw [add_put unmapped.1]
        rfl
  | beat one =>
      have different : one ≠ handle := uncalled
      simp only [apply, clock_put, getElem?_put_of_ne different]
      split
      · rfl
      · rw [put_comm different.symm]
        rfl
  | heartbeatPass =>
      simp only [apply, heartbeatPass_put unmapped]
      rfl
  | survey =>
      simp only [apply, survey_put unmapped]
      rfl
  | reload ipv4Pop loaded =>
      simp only [apply, reload_put unmapped]
      rfl

/-- An idle session stays as it is until it is installed or called. -/
theorem idle_apply {session : Session} (link : LocalLink) (operation : SessionOperation)
    (idle : state.Idle handle session) (uninstalled : ¬operation.Installs handle)
    (uncalled : ¬operation.Calls handle) :
    (operation.apply link state).1.Idle handle session := by
  have unmapped : (operation.apply link state).1.Unmapped handle := by
    refine idle.unmapped.moves ?_ (operation.moves_apply link state)
    rintro (installed | new)
    · exact uninstalled installed
    · exact Nat.not_le.mpr idle.unmapped.1 new
  -- Putting the session where it is already is an exchange like any other.
  have exchanged := apply_put link operation idle uninstalled uncalled idle.unlinked
  rw [put_of_getElem? idle.known] at exchanged
  refine ⟨unmapped, ?_, idle.unlinked⟩
  rw [congrArg Prod.fst exchanged]
  exact getElem?_put unmapped

end SessionOperation

theorem LeadsTo.idle {link : LocalLink} {handle : Handle} {session : Session}
    {origin state : State Session}
    (leads : LeadsTo link
      (fun operation => ¬operation.Installs handle ∧ ¬operation.Calls handle) origin state)
    (idle : origin.Idle handle session) : state.Idle handle session := by
  induction leads with
  | start => exact idle
  | step operation _ allowed hypothesis =>
      exact operation.idle_apply link hypothesis allowed.1 allowed.2
  | reordered _ same hypothesis =>
      rcases hypothesis with ⟨⟨bound, absent⟩, known, unlinked⟩
      refine ⟨⟨bound, ?_⟩, known, unlinked⟩
      intro member
      exact absent ((same.map Prod.snd).mem_iff.mp member)

end TunnelServer
