import TunnelServer.Proofs.Run.Sweep

/-!
# What a heartbeat pass does

A heartbeat pass finds every mapped session to be without a link, expired, quiet or due for a
heartbeat, and does what belongs to that finding: nothing, or the link is given up, or a heartbeat is
packed.  The findings do not depend on one another, so a pass does the same in whatever order it goes
through the sessions; only the order of the packets that it sends is the order of the sessions.
-/

namespace TunnelServer

/-- What a heartbeat pass finds a session to be. -/
inductive Finding where
  | unlinked
  | expired
  | quiet
  | due (heartbeat : Transmission)
  deriving DecidableEq

namespace Finding

def isConnected : Finding → Bool
  | unlinked => false
  | expired => false
  | quiet => true
  | due _ => true

def heartbeat? : Finding → Option Transmission
  | due heartbeat => some heartbeat
  | _ => none

/-- The heartbeats that reach their peers. -/
def reaching (outages : Outages) (found : List Finding) : List Transmission :=
  (found.filterMap heartbeat?).filter fun heartbeat => heartbeat.peer ∉ outages.peers

/-- The heartbeats that do not, since their peers are down. -/
def failing (outages : Outages) (found : List Finding) : List Transmission :=
  (found.filterMap heartbeat?).filter fun heartbeat => heartbeat.peer ∈ outages.peers

end Finding

namespace Session

/-- A session with a link has expired if its peer has been silent for longer than its heartbeat
interval and ten seconds; if it has not expired, it is due for a heartbeat if it has sent nothing for
its heartbeat interval. -/
def finding (clock : Clock) (session : Session) : Finding :=
  match session.link with
  | none => .unlinked
  | some link =>
    if session.hasExpired clock then .expired
    else if session.profile.heartbeatInterval ≤ clock.now - session.lastSent then
      .due ⟨link.peer, Packet.encode (.heartbeat session.identity clock.epoch)
        session.profile.key []⟩
    else .quiet

/-- What a heartbeat pass leaves of a session. -/
def passed (clock : Clock) (session : Session) : Session :=
  match session.finding clock with
  | .unlinked => session
  | .expired => { session with link := none }
  | .quiet => session
  | .due _ => { session with lastSent := clock.now }

end Session

/-- The counters after a heartbeat pass that found this. -/
def Counters.passedOver (outages : Outages) (found : List Finding) (counters : Counters) :
    Counters :=
  { counters with
    timeouts := counters.timeouts + found.count .expired
    heartbeats := counters.heartbeats + (Finding.reaching outages found).length
    sent := counters.sent + (Finding.reaching outages found).length
    sendErrors := counters.sendErrors + (Finding.failing outages found).length }

/-- The report of a heartbeat pass that found this. -/
def State.PassReport.of (outages : Outages) (found : List Finding) : State.PassReport where
  connected := found.countP Finding.isConnected
  timedOut := found.count .expired
  heartbeats := (Finding.reaching outages found).length

namespace State

/-- What a heartbeat pass finds the sessions to be. -/
def findings (handles : List Handle) (state : State Session) : List Finding :=
  handles.filterMap fun handle => state.channels[handle]?.map (Session.finding state.clock)

/-- A heartbeat pass does to each mapped session what belongs to its finding, sends the heartbeats of
those that are due, in some order, and counts and reports all that.  It does nothing else. -/
structure PassedOver (before after : State Session) (report : PassReport) : Prop where
  clock : after.clock = before.clock
  outages : after.outages = before.outages
  written : after.written = before.written
  lookup : ∀ identity, after.registry.lookup identity = before.registry.lookup identity
  unmapped : ∀ handle, handle ∉ before.registry.handles →
    after.channels[handle]? = before.channels[handle]?
  mapped : ∀ handle session, handle ∈ before.registry.handles →
    before.channels[handle]? = some session →
      after.channels[handle]? = some (session.passed before.clock)
  sent : ∃ packets, after.sent = before.sent ++ packets ∧
    packets.Perm (Finding.reaching before.outages (before.findings before.registry.handles))
  counters : after.counters =
    before.counters.passedOver before.outages (before.findings before.registry.handles)
  report : report = .of before.outages (before.findings before.registry.handles)

end State

/-! ## One session -/

namespace Session

variable {clock : Clock} {session : Session} {link : Link}

theorem finding_of_unlinked (unlinked : session.link = none) :
    session.finding clock = .unlinked := by
  simp only [finding, unlinked]

theorem finding_of_hasExpired (expired : session.hasExpired clock = true) :
    session.finding clock = .expired := by
  cases linked : session.link with
  | none =>
      rw [hasExpired_of_unlinked linked] at expired
      cases expired
  | some link => simp only [finding, linked, expired, if_true]

theorem finding_eq_expired_iff :
    session.finding clock = .expired ↔ session.hasExpired clock = true := by
  constructor
  · intro found
    simp only [finding] at found
    split at found
    · cases found
    · split at found
      · assumption
      · split at found <;> cases found
  · exact finding_of_hasExpired

theorem exists_due_iff :
    (∃ packet, session.finding clock = .due packet) ↔
      session.link.isSome ∧ session.hasExpired clock = false ∧
        session.profile.heartbeatInterval ≤ clock.now - session.lastSent := by
  cases linked : session.link with
  | none => simp [finding, linked]
  | some link =>
      by_cases expired : session.hasExpired clock = true
      · simp [finding_of_hasExpired expired, expired]
      · by_cases old : session.profile.heartbeatInterval ≤ clock.now - session.lastSent
        · simp [finding, linked, expired, old]
        · simp [finding, linked, expired, old]

end Session

namespace State

variable {state before between after : State Session} {handle : Handle} {session : Session}
variable {handles rest : List Handle} {report first last : PassReport}

/-- What one visit does, by what it finds. -/
theorem visit_of_known (known : state.channels[handle]? = some session) :
    state.visit handle report =
      match session.finding state.clock with
      | .unlinked => (state, report)
      | .expired =>
        ((state.put handle session.close).count fun counters =>
            { counters with timeouts := counters.timeouts + 1 },
          { report with timedOut := report.timedOut + 1 })
      | .quiet => (state, { report with connected := report.connected + 1 })
      | .due packet =>
        (state.put handle { session with lastSent := state.clock.now }).dispatchHeartbeat packet
          { report with connected := report.connected + 1 } := by
  have stays : state.put handle session = state := put_of_getElem? known
  cases linked : session.link with
  | none =>
      rw [Session.finding_of_unlinked linked]
      simp [visit, known, Session.checkLive, Session.peer?, linked, stays]
  | some link =>
      have live := session.isLive_eq_not_hasExpired state.clock
      simp only [linked, Option.isSome_some, Bool.true_and] at live
      cases expired : session.hasExpired state.clock with
      | true =>
          rw [expired] at live
          rw [Session.finding_of_hasExpired expired]
          simp [visit, known, Session.checkLive_of_not_isLive live, Session.peer?, linked]
      | false =>
          rw [expired] at live
          simp only [visit, known, Session.checkLive_of_isLive live, visitConnected,
            Session.heartbeatDue, Session.finding, Session.beat, Session.pack, linked, expired]
          by_cases due : session.profile.heartbeatInterval ≤ state.clock.now - session.lastSent
          · simp [due]
          · simp [due, stays]

/-! ## A row of sessions -/

/-- What visiting some sessions in order does. -/
structure Visits (handles : List Handle) (before : State Session) (first : PassReport)
    (after : State Session) (last : PassReport) : Prop where
  sweeps : Sweeps (Session.passed before.clock) handles before after
  outages : after.outages = before.outages
  written : after.written = before.written
  sent : after.sent = before.sent ++ Finding.reaching before.outages (before.findings handles)
  counters : after.counters =
    before.counters.passedOver before.outages (before.findings handles)
  report : last =
    { connected := first.connected + (PassReport.of before.outages (before.findings handles)).connected
      timedOut := first.timedOut + (PassReport.of before.outages (before.findings handles)).timedOut
      heartbeats :=
        first.heartbeats + (PassReport.of before.outages (before.findings handles)).heartbeats }

theorem findings_singleton (known : state.channels[handle]? = some session) :
    state.findings [handle] = [session.finding state.clock] := by
  simp only [findings, List.filterMap_cons, known, Option.map_some, List.filterMap_nil]

theorem visits_of_unknown (report : PassReport) (unknown : state.channels[handle]? = none) :
    Visits [handle] state report state report := by
  have nothing : state.findings [handle] = [] := by simp [findings, unknown]
  refine ⟨.of_unknown _ unknown, rfl, rfl, ?_, ?_, ?_⟩ <;> rw [nothing]
  · exact (List.append_nil _).symm
  · rfl
  · rfl

/-- A visit that finds no heartbeat due. -/
theorem Visits.silent (known : state.channels[handle]? = some session)
    (silent : (session.finding state.clock).heartbeat? = none) :
    Visits [handle] state report
      ((state.put handle (session.passed state.clock)).count fun counters =>
        { counters with
          timeouts := counters.timeouts + [session.finding state.clock].count .expired })
      { report with
        connected := report.connected + [session.finding state.clock].countP Finding.isConnected
        timedOut := report.timedOut + [session.finding state.clock].count .expired } := by
  have nothing : [session.finding state.clock].filterMap Finding.heartbeat? = [] := by
    rw [List.filterMap_cons_none silent, List.filterMap_nil]
  refine ⟨(Sweeps.put _ known).aside rfl rfl rfl, rfl, rfl, ?_, ?_, ?_⟩ <;>
    rw [findings_singleton known]
  · simp only [Finding.reaching, nothing, List.filter_nil, List.append_nil]
    rfl
  · simp only [Counters.passedOver, Finding.reaching, Finding.failing, nothing]
    rfl
  · simp only [PassReport.of, Finding.reaching, nothing]
    rfl

/-- A visit that finds a heartbeat due. -/
theorem Visits.beaten {packet : Transmission} (known : state.channels[handle]? = some session)
    (found : session.finding state.clock = .due packet) :
    let dispatched := (state.put handle { session with lastSent := state.clock.now }).dispatchHeartbeat
      packet { report with connected := report.connected + 1 }
    Visits [handle] state report dispatched.1 dispatched.2 := by
  have swept := Sweeps.put (Session.passed state.clock) known
  simp only [Session.passed, found] at swept
  dsimp only
  rw [dispatchHeartbeat_eq]
  by_cases down : packet.peer ∈ state.outages.peers
  · have reaching : Finding.reaching state.outages [.due packet] = [] := by
      simp [Finding.reaching, Finding.heartbeat?, down]
    have failing : Finding.failing state.outages [.due packet] = [packet] := by
      simp [Finding.failing, Finding.heartbeat?, down]
    simp only [outages_put, down, if_true]
    refine ⟨swept.aside rfl rfl rfl, rfl, rfl, ?_, ?_, ?_⟩ <;>
      rw [findings_singleton known, found]
    · rw [reaching]
      exact (List.append_nil _).symm
    · rw [Counters.passedOver, reaching, failing]
      rfl
    · rw [PassReport.of, reaching]
      rfl
  · have reaching : Finding.reaching state.outages [.due packet] = [packet] := by
      simp [Finding.reaching, Finding.heartbeat?, down]
    have failing : Finding.failing state.outages [.due packet] = [] := by
      simp [Finding.failing, Finding.heartbeat?, down]
    simp only [outages_put, down, if_false]
    refine ⟨swept.aside rfl rfl rfl, rfl, rfl, ?_, ?_, ?_⟩ <;>
      rw [findings_singleton known, found]
    · rw [reaching]
      rfl
    · rw [Counters.passedOver, reaching, failing]
      rfl
    · rw [PassReport.of, reaching]
      rfl

theorem visits_visit (handle : Handle) (report : PassReport) (state : State Session) :
    Visits [handle] state report (state.visit handle report).1 (state.visit handle report).2 := by
  cases known : state.channels[handle]? with
  | none =>
      simp only [visit, known]
      exact visits_of_unknown report known
  | some session =>
      have stays : state.put handle session = state := put_of_getElem? known
      have silent := @Visits.silent state handle session report known
      rw [visit_of_known known]
      cases found : session.finding state.clock with
      | unlinked =>
          simp only [Session.passed, found, stays] at silent
          exact silent rfl
      | expired =>
          simp only [Session.passed, found] at silent
          exact silent rfl
      | quiet =>
          simp only [Session.passed, found, stays] at silent
          exact silent rfl
      | due packet => exact .beaten known found

/-! ## All sessions -/

theorem findings_congr (clock : after.clock = before.clock)
    (same : ∀ handle ∈ handles, after.channels[handle]? = before.channels[handle]?) :
    after.findings handles = before.findings handles := by
  simp only [findings, clock]
  apply List.filterMap_congr
  intro handle member
  rw [same handle member]

theorem findings_cons (handle : Handle) (rest : List Handle) (state : State Session) :
    state.findings (handle :: rest) = state.findings [handle] ++ state.findings rest := by
  rw [findings, findings, findings, ← List.filterMap_append, List.singleton_append]

theorem Visits.cons (one : Visits [handle] before first between report) (apart : handle ∉ rest)
    (later : Visits rest between report after last) :
    Visits (handle :: rest) before first after last := by
  have untouched : between.findings rest = before.findings rest := by
    apply findings_congr one.sweeps.clock
    intro other member
    rw [one.sweeps.channels, if_neg]
    rw [List.mem_singleton]
    rintro rfl
    exact apart member
  have swept := later.sweeps
  rw [one.sweeps.clock] at swept
  refine ⟨one.sweeps.cons apart swept, later.outages.trans one.outages,
    later.written.trans one.written, ?_, ?_, ?_⟩ <;> rw [findings_cons]
  · rw [later.sent, one.sent, one.outages, untouched, List.append_assoc]
    simp only [Finding.reaching, List.filterMap_append, List.filter_append]
  · rw [later.counters, one.counters, one.outages, untouched]
    simp only [Counters.passedOver, Finding.reaching, Finding.failing, List.filterMap_append,
      List.filter_append, List.length_append, List.count_append, Nat.add_assoc]
  · rw [later.report, one.report, one.outages, untouched]
    simp only [PassReport.of, Finding.reaching, List.filterMap_append, List.filter_append,
      List.length_append, List.count_append, List.countP_append, Nat.add_assoc]

theorem visits_foldl (nodup : handles.Nodup) (report : PassReport) (state : State Session) :
    let passed := handles.foldl (fun (state, report) handle => state.visit handle report) (state, report)
    Visits handles state report passed.1 passed.2 := by
  induction handles generalizing state report with
  | nil =>
      refine ⟨.nil _ state, rfl, rfl, ?_, rfl, rfl⟩
      exact (List.append_nil _).symm
  | cons handle rest hypothesis =>
      rw [List.nodup_cons] at nodup
      exact (visits_visit handle report state).cons nodup.1 (hypothesis nodup.2 _ _)

theorem visits_heartbeatPass (keyed : state.Keyed) :
    Visits state.registry.handles state {} state.heartbeatPass.1 state.heartbeatPass.2 :=
  visits_foldl keyed.nodup_handles {} state

theorem passedOver_of_perm {registry : Registry} (keyed : state.Keyed)
    (same : registry.entries.Perm state.registry.entries) :
    let pass := heartbeatPass { state with registry := registry }
    state.PassedOver pass.1 pass.2 := by
  have visits := visits_heartbeatPass (keyed.reordered same)
  have handles : registry.handles.Perm state.registry.handles := same.map Prod.snd
  have found : ({ state with registry := registry } : State Session).findings registry.handles =
      state.findings registry.handles := findings_congr rfl fun _ _ => rfl
  have permuted : (state.findings registry.handles).Perm
      (state.findings state.registry.handles) := handles.filterMap _
  have reaching : (Finding.reaching state.outages (state.findings registry.handles)).Perm
      (Finding.reaching state.outages (state.findings state.registry.handles)) :=
    (permuted.filterMap _).filter _
  have failing : (Finding.failing state.outages (state.findings registry.handles)).Perm
      (Finding.failing state.outages (state.findings state.registry.handles)) :=
    (permuted.filterMap _).filter _
  have swept := visits.sweeps
  refine ⟨swept.clock, visits.outages, visits.written, ?_, ?_, ?_, ⟨_, visits.sent, ?_⟩, ?_, ?_⟩
  · intro identity
    rw [swept.registry, Registry.lookup_of_perm same]
  · intro handle absent
    rw [swept.channels, if_neg]
    exact fun member => absent (handles.mem_iff.mp member)
  · intro handle session member known
    exact swept.getElem?_of_mapped (handles.mem_iff.mpr member) known
  · rw [found]
    exact reaching
  · rw [visits.counters, found, Counters.passedOver, Counters.passedOver, permuted.count_eq,
      reaching.length_eq, failing.length_eq]
  · rw [visits.report, found, PassReport.of, PassReport.of, permuted.count_eq,
      permuted.countP_eq, reaching.length_eq]
    simp only [Nat.zero_add]

/-- A pass leaves nothing open but the order of the packets and of the registry's entries. -/
theorem PassedOver.unique {one other : State Session} {counted : PassReport} (keyed : before.Keyed)
    (first : before.PassedOver one report) (second : before.PassedOver other counted) :
    other = { one with registry := other.registry, sent := other.sent } ∧
      other.sent.Perm one.sent ∧ counted = report := by
  have channels : other.channels = one.channels := by
    apply List.ext_getElem?
    intro handle
    by_cases member : handle ∈ before.registry.handles
    · rcases Registry.mem_handles_iff.mp member with ⟨identity, mapped⟩
      rcases keyed identity handle mapped with ⟨session, known, -⟩
      rw [second.mapped handle session member known, first.mapped handle session member known]
    · rw [second.unmapped handle member, first.unmapped handle member]
  refine ⟨?_, ?_, second.report.trans first.report.symm⟩
  · have clock := second.clock.trans first.clock.symm
    have counters := second.counters.trans first.counters.symm
    have written := second.written.trans first.written.symm
    have outages := second.outages.trans first.outages.symm
    cases one
    cases other
    simp only at clock channels counters written outages
    simp only [clock, channels, counters, written, outages]
  · rcases first.sent with ⟨packets, sent, ordered⟩
    rcases second.sent with ⟨others, resent, reordered⟩
    rw [sent, resent]
    exact (reordered.trans ordered.symm).append_left before.sent

end State

theorem Session.profile_passed (clock : Clock) (session : Session) :
    (session.passed clock).profile = session.profile := by
  simp only [passed]
  split <;> rfl

/-- A pass leaves a session that has a link with a peer that was heard from lately, and to which it sent
lately or just now. -/
theorem Session.passed_settled {clock : Clock} {session : Session}
    (linked : (session.passed clock).link.isSome) :
    clock.now - (session.passed clock).lastReceived ≤
        session.profile.heartbeatInterval + 10 * 1000000000 ∧
      (clock.now - (session.passed clock).lastSent < session.profile.heartbeatInterval ∨
        (session.passed clock).lastSent = clock.now) := by
  cases present : session.link with
  | none => simp [passed, finding_of_unlinked present, present] at linked
  | some link =>
      cases expired : session.hasExpired clock with
      | true => simp [passed, finding_of_hasExpired expired] at linked
      | false =>
          have heard : clock.now - session.lastReceived ≤
              session.profile.heartbeatInterval + 10 * 1000000000 := by
            simp only [hasExpired, present, Option.isSome_some, Bool.true_and,
              decide_eq_false_iff_not] at expired
            exact Nat.not_lt.mp expired
          simp only [passed, finding, present, expired, Bool.false_eq_true, if_false]
          by_cases due : session.profile.heartbeatInterval ≤ clock.now - session.lastSent
          · simp only [due, if_true]
            exact ⟨heard, .inr trivial⟩
          · simp only [due, if_false]
            exact ⟨heard, .inl (Nat.not_le.mp due)⟩

/-- A heartbeat pass does to each mapped session what belongs to its state: one without a peer is left
alone, one whose peer has been silent for too long loses its link, one that has sent nothing for its
heartbeat interval sends one heartbeat, and others are only counted.  Whatever order the registry lists
the sessions in, the outcome is the same but for the order of the packets.  Every mapped session that
has a peer afterwards was heard from lately, and has sent lately or just now. -/
theorem heartbeatPass_visits_each {link : LocalLink} {state : State Session}
    (reachable : Reachable link (fun _ => True) state) {registry : Registry}
    (same : registry.entries.Perm state.registry.entries) :
    let pass := State.heartbeatPass { state with registry := registry }
    state.PassedOver pass.1 pass.2 ∧
      (∀ other : Registry, other.entries.Perm state.registry.entries →
        let again := State.heartbeatPass { state with registry := other }
        again.1 = { pass.1 with registry := other, sent := again.1.sent } ∧
          again.1.sent.Perm pass.1.sent ∧ again.2 = pass.2) ∧
      (∀ handle session peer, handle ∈ state.registry.handles →
        pass.1.channels[handle]? = some session → session.peer? = some peer →
          state.clock.now - session.lastReceived ≤
              session.profile.heartbeatInterval + 10 * 1000000000 ∧
            (state.clock.now - session.lastSent < session.profile.heartbeatInterval ∨
              session.lastSent = state.clock.now)) := by
  have keyed := reachable.keyed
  have passed := State.passedOver_of_perm keyed same
  refine ⟨passed, ?_, ?_⟩
  · intro other reordered
    have again := State.passedOver_of_perm keyed reordered
    rcases passed.unique keyed again with ⟨alike, sent, report⟩
    have mapping : (State.heartbeatPass { state with registry := other }).1.registry = other :=
      (State.visits_heartbeatPass (keyed.reordered reordered)).sweeps.registry
    rw [mapping] at alike
    exact ⟨alike, sent, report⟩
  · intro handle session peer member known connected
    rcases Registry.mem_handles_iff.mp member with ⟨identity, mapped⟩
    rcases keyed identity handle mapped with ⟨before, there, -⟩
    cases (passed.mapped handle before member there).symm.trans known
    have linked : (before.passed state.clock).link.isSome := by
      rcases Option.map_eq_some_iff.mp connected with ⟨link, present, -⟩
      rw [present]
      rfl
    have settled := Session.passed_settled linked
    rw [Session.profile_passed]
    exact settled

/-- A session that was connected a heartbeat interval ago sends one heartbeat. -/
theorem heartbeatPass_beats_once :
    let installed : List SessionOperation :=
      [.common (.installOrReplace 0 "local" (.v4 Ipv4Address.unspecified 5072)),
        .common (.advance 60000000000)]
    let state := (SessionOperation.run Sample.localLink Sample.server installed).1
    Reachable Sample.localLink (fun _ => True) state ∧
      state.PassedOver state.heartbeatPass.1 state.heartbeatPass.2 ∧
      state.heartbeatPass.2 = { connected := 1, timedOut := 0, heartbeats := 1 } := by
  intro installed state
  have reachable : Reachable Sample.localLink (fun _ => True) state :=
    (Sample.reachable_server trivial trivial).run installed fun _ _ => trivial
  have passed := (heartbeatPass_visits_each reachable (List.Perm.refl state.registry.entries)).1
  exact ⟨reachable, passed, passed.report⟩

end TunnelServer
