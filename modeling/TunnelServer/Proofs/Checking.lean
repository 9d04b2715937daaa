import TunnelServer.Proofs.Heartbeats
import TunnelServer.Proofs.Run.Lag

/-!
# Checks go unnoticed

To ask a session whether it is connected is to make it give up a link that has expired.  Yet nothing
that the server does depends on how often it is asked: two runs, one of which is the other with checks
put in anywhere, send and write the same at every step and give the same answers.  Only the timeouts
are counted differently, since those that a check was the first to notice are never counted.
-/

namespace TunnelServer

namespace SessionOperation

/-- The operations that go through the registry and the pumps, and what is none of the server's doing. -/
inductive IsRegular : SessionOperation → Prop where
  | active {operation : SessionOperation} (active : operation.IsActive) : IsRegular operation
  | outages (present : Outages) : IsRegular (.common (.outages present))
  | localRead (bytes : Bytes) : IsRegular (.common (.localRead bytes))
  | localStream (stopping : Bool) (input : Pipe.Input) :
      IsRegular (.common (.localStream stopping input))
  | heartbeatPass : IsRegular .heartbeatPass

/-- The operations that only ask whether sessions are connected. -/
inductive IsCheck : SessionOperation → Prop where
  | checkLive (handle : Handle) : IsCheck (.common (.checkLive handle))
  | connectedCount : IsCheck (.common .connectedCount)
  | survey : IsCheck .survey

/-- Of two runs, the latest operation first, the second is the first with checks put in. -/
inductive WithChecks : List SessionOperation → List SessionOperation → Prop where
  | nil : WithChecks [] []
  | kept {ones others : List SessionOperation} {operation : SessionOperation}
      (regular : operation.IsRegular) (earlier : WithChecks ones others) :
      WithChecks (operation :: ones) (operation :: others)
  | check {ones others : List SessionOperation} {operation : SessionOperation}
      (check : operation.IsCheck) (earlier : WithChecks ones others) :
      WithChecks ones (operation :: others)

end SessionOperation

/-- Two answers are the same but for the number of timeouts that a heartbeat pass reports. -/
def Outcome.Agrees : Outcome → Outcome → Prop
  | .passed report, .passed other => other = { report with timedOut := other.timedOut }
  | one, other => other = one

namespace Occurrence

/-- What an event answers. -/
def outcome (link : LocalLink) (event : Occurrence) : Outcome :=
  (event.operation.apply link event.state).2

/-- Two events are the same operation, performed on a server and on one that it lags behind.  They send
the same packets, though a heartbeat pass may do so in another order, write the same datagrams and
answer the same. -/
structure Mirrors (link : LocalLink) (one other : Occurrence) : Prop where
  operation : other.operation = one.operation
  lags : one.state.Lags other.state
  sent : ∃ packets others, (one.next link).sent = one.state.sent ++ packets ∧
    (other.next link).sent = other.state.sent ++ others ∧ others.Perm packets ∧
      (one.operation ≠ .heartbeatPass → others = packets)
  written : ∃ deliveries, (one.next link).written = one.state.written ++ deliveries ∧
    (other.next link).written = other.state.written ++ deliveries
  outcome : (one.outcome link).Agrees (other.outcome link)

/-- An event only asks whether sessions are connected, and nothing is sent, written or counted. -/
structure Asks (link : LocalLink) (event : Occurrence) : Prop where
  check : event.operation.IsCheck
  sent : (event.next link).sent = event.state.sent
  written : (event.next link).written = event.state.written
  counters : (event.next link).counters = event.state.counters

/-- Two histories, the latest event first, mirror each other, event by event, but that the second has
checks in between. -/
inductive Mirrored (link : LocalLink) : List Occurrence → List Occurrence → Prop where
  | nil : Mirrored link [] []
  | both {ones others : List Occurrence} {one other : Occurrence}
      (mirrors : one.Mirrors link other) (earlier : Mirrored link ones others) :
      Mirrored link (one :: ones) (other :: others)
  | asked {ones others : List Occurrence} {other : Occurrence} (asks : other.Asks link)
      (earlier : Mirrored link ones others) : Mirrored link ones (other :: others)

end Occurrence

/-! ## Heartbeat passes -/

namespace Session

variable {clock : Clock} {one other : Session}

theorem Lags.passed (lags : one.Lags clock other) : other.passed clock = one.passed clock := by
  rcases lags with rfl | ⟨expired, rfl⟩
  · rfl
  · have gone : ({ one with link := none } : Session).finding clock = .unlinked :=
      finding_of_unlinked rfl
    simp only [Session.passed, gone, finding_of_hasExpired expired]

theorem Lags.finding (lags : one.Lags clock other) :
    other.finding clock = one.finding clock ∨
      other.finding clock = .unlinked ∧ one.finding clock = .expired := by
  rcases lags with rfl | ⟨expired, rfl⟩
  · exact .inl rfl
  · exact .inr ⟨finding_of_unlinked rfl, finding_of_hasExpired expired⟩

theorem Lags.heartbeat? (lags : one.Lags clock other) :
    (other.finding clock).heartbeat? = (one.finding clock).heartbeat? := by
  rcases lags.finding with same | ⟨gone, expired⟩
  · rw [same]
  · rw [gone, expired]
    rfl

theorem Lags.isConnected (lags : one.Lags clock other) :
    (other.finding clock).isConnected = (one.finding clock).isConnected := by
  rcases lags.finding with same | ⟨gone, expired⟩
  · rw [same]
  · rw [gone, expired]
    rfl

end Session

namespace State

variable {one other : State Session}

/-- What cannot tell expired sessions from unlinked ones cannot tell the two servers apart. -/
theorem Lags.finding {α : Type} (lags : one.Lags other) (tell : Option Finding → α)
    (same : ∀ session counterpart : Session, session.Lags one.clock counterpart →
      tell (some (counterpart.finding one.clock)) = tell (some (session.finding one.clock)))
    (handle : Handle) :
    tell (other.channels[handle]?.map (Session.finding other.clock)) =
      tell (one.channels[handle]?.map (Session.finding one.clock)) := by
  cases known : one.channels[handle]? with
  | none => rw [lags.unknown known, Option.map_none, Option.map_none]
  | some session =>
      rcases lags.known known with ⟨counterpart, there, behind⟩
      rw [there, Option.map_some, Option.map_some, lags.clock]
      exact same session counterpart behind

theorem Lags.heartbeats (lags : one.Lags other) :
    ((other.findings other.registry.handles).filterMap Finding.heartbeat?).Perm
      ((one.findings one.registry.handles).filterMap Finding.heartbeat?) := by
  rw [findings, findings, List.filterMap_filterMap, List.filterMap_filterMap]
  refine (lags.handles.filterMap _).trans (.of_eq ?_)
  apply List.filterMap_congr
  intro handle _
  apply lags.finding (fun found => found.bind Finding.heartbeat?)
  intro session counterpart behind
  exact behind.heartbeat?

theorem Lags.countP_isConnected (lags : one.Lags other) :
    (other.findings other.registry.handles).countP Finding.isConnected =
      (one.findings one.registry.handles).countP Finding.isConnected := by
  rw [findings, findings, List.countP_filterMap, List.countP_filterMap, lags.handles.countP_eq]
  apply List.countP_congr
  intro handle _
  apply Eq.to_iff
  apply congrArg (· = true)
  apply lags.finding (fun found => (found.map Finding.isConnected).getD false)
  intro session counterpart behind
  exact behind.isConnected

/-- Passes over two servers, of which one lags behind the other, send the same heartbeats, in some
order, and find the same sessions connected; the one still lags behind the other. -/
theorem Lags.heartbeatPass (lags : one.Lags other) (keyed : one.Keyed) (rekeyed : other.Keyed) :
    one.heartbeatPass.1.Lags other.heartbeatPass.1 ∧
      (∃ packets others, one.heartbeatPass.1.sent = one.sent ++ packets ∧
        other.heartbeatPass.1.sent = other.sent ++ others ∧ others.Perm packets) ∧
      other.heartbeatPass.2 =
        { one.heartbeatPass.2 with timedOut := other.heartbeatPass.2.timedOut } := by
  have first : one.PassedOver one.heartbeatPass.1 one.heartbeatPass.2 :=
    passedOver_of_perm keyed (.refl one.registry.entries)
  have second : other.PassedOver other.heartbeatPass.1 other.heartbeatPass.2 :=
    passedOver_of_perm rekeyed (.refl other.registry.entries)
  have reaching : (Finding.reaching other.outages (other.findings other.registry.handles)).Perm
      (Finding.reaching one.outages (one.findings one.registry.handles)) := by
    rw [lags.outages]
    exact lags.heartbeats.filter _
  have failing : (Finding.failing other.outages (other.findings other.registry.handles)).Perm
      (Finding.failing one.outages (one.findings one.registry.handles)) := by
    rw [lags.outages]
    exact lags.heartbeats.filter _
  refine ⟨⟨?_, ?_, ?_, ?_, ?_, ?_⟩, ?_, ?_⟩
  · rw [second.clock, first.clock, lags.clock]
  · intro identity
    rw [second.lookup, first.lookup, lags.lookup]
  · rw [second.outages, first.outages, lags.outages]
  · rw [second.counters, first.counters, Counters.passedOver, Counters.passedOver, lags.counters,
      reaching.length_eq, failing.length_eq]
  · rw [(rests_heartbeatPass other).length, (rests_heartbeatPass one).length, lags.length]
  · intro handle session counterpart known there
    rw [first.clock]
    by_cases mapped : handle ∈ one.registry.handles
    · rcases Registry.mem_handles_iff.mp mapped with ⟨identity, lookup⟩
      rcases keyed identity handle lookup with ⟨before, known', -⟩
      rcases lags.known known' with ⟨beside, there', behind⟩
      have passed := first.mapped handle before mapped known'
      have repassed := second.mapped handle beside (lags.handles.mem_iff.mpr mapped) there'
      rw [lags.clock, behind.passed] at repassed
      cases passed.symm.trans known
      cases repassed.symm.trans there
      exact .refl one.clock _
    · rw [first.unmapped handle mapped] at known
      rw [second.unmapped handle fun member => mapped (lags.handles.mem_iff.mp member)] at there
      exact lags.sessions handle session counterpart known there
  · rcases first.sent with ⟨packets, sent, ordered⟩
    rcases second.sent with ⟨others, resent, reordered⟩
    exact ⟨packets, others, sent, resent, (reordered.trans reaching).trans ordered.symm⟩
  · rw [second.report, first.report, PassReport.of, PassReport.of, lags.countP_isConnected,
      reaching.length_eq]

end State

/-! ## Any event -/

theorem Outcome.Agrees.of_eq {one other : Outcome} (same : other = one) : one.Agrees other := by
  subst same
  cases other <;> rfl

namespace SessionOperation

variable {link : LocalLink} {one other state : State Session} {operation : SessionOperation}

theorem inStep_of_isActive (lags : one.Lags other) (active : operation.IsActive) :
    State.InStep one other (operation.apply link one).1 (operation.apply link other).1 ∧
      (operation.apply link other).2 = (operation.apply link one).2 := by
  cases active with
  | advance nanos => exact ⟨.quiet (lags.advance nanos) rfl rfl rfl rfl, rfl⟩
  | install handle =>
      refine ⟨State.inStep_install lags handle, ?_⟩
      exact congrArg (fun replaced => Outcome.displaced (.ok replaced)) (lags.install handle).2
  | installOrReplace handle sink peer =>
      rcases State.inStep_installOrReplace lags handle sink peer with ⟨inStep, same⟩
      exact ⟨inStep, congrArg Outcome.displaced same⟩
  | remove identity =>
      rcases lags.remove identity with ⟨removed, same⟩
      refine ⟨.of_aside removed (State.aside_remove identity one) (State.aside_remove identity other),
        ?_⟩
      exact congrArg (fun removed => Outcome.displaced (.ok removed)) same
  | replaceAll handles =>
      rcases State.inStep_replaceAll lags handles with ⟨inStep, same⟩
      exact ⟨inStep, congrArg Outcome.counted same⟩
  | removeAll =>
      rcases State.inStep_removeAll lags with ⟨inStep, same⟩
      exact ⟨inStep, congrArg Outcome.counted same⟩
  | packet bytes source => exact ⟨State.inStep_takePacket lags link.sink bytes source, rfl⟩
  | create record =>
      simp only [apply, lags.clock]
      split
      · exact ⟨.refl lags, rfl⟩
      · rename_i session made
        refine ⟨.quiet (lags.append [session]) rfl rfl rfl rfl, ?_⟩
        exact congrArg (fun handle => Outcome.created (.ok handle)) lags.length
  | reload ipv4Pop loaded =>
      rcases State.inStep_reload lags ipv4Pop loaded with ⟨inStep, same⟩
      exact ⟨inStep, congrArg Outcome.reloaded same⟩

theorem inStep_apply (link : LocalLink) (lags : one.Lags other) (regular : operation.IsRegular)
    (apart : operation ≠ .heartbeatPass) :
    State.InStep one other (operation.apply link one).1 (operation.apply link other).1 ∧
      (operation.apply link other).2 = (operation.apply link one).2 := by
  cases regular with
  | active active => exact inStep_of_isActive lags active
  | outages present => exact ⟨.quiet (lags.withOutages present) rfl rfl rfl rfl, rfl⟩
  | localRead bytes => exact ⟨State.inStep_takeRead lags link.unhandled bytes, rfl⟩
  | localStream stopping input =>
      rcases State.inStep_takeStream lags link.unhandled stopping input with ⟨inStep, same⟩
      exact ⟨inStep, congrArg Outcome.streamed same⟩
  | heartbeatPass => exact absurd rfl apart

/-- Regular operations, performed on a server and on one that it lags behind, do the same. -/
theorem mirrors (lags : one.Lags other) (keyed : one.Keyed) (rekeyed : other.Keyed)
    (regular : operation.IsRegular) :
    Occurrence.Mirrors link ⟨one, operation⟩ ⟨other, operation⟩ ∧
      (operation.apply link one).1.Lags (operation.apply link other).1 := by
  by_cases pass : operation = .heartbeatPass
  · subst pass
    rcases lags.heartbeatPass keyed rekeyed with ⟨still, ⟨packets, others, sent, resent, same⟩, report⟩
    have written : ∀ state : State Session, state.Keyed →
        state.heartbeatPass.1.written = state.written := by
      intro state keyed
      exact (State.visits_heartbeatPass keyed).written
    refine ⟨⟨rfl, lags, ⟨packets, others, sent, resent, same, ?_⟩, ⟨[], ?_, ?_⟩, report⟩, still⟩
    · exact fun apart => absurd rfl apart
    · exact (written one keyed).trans (List.append_nil one.written).symm
    · exact (written other rekeyed).trans (List.append_nil other.written).symm
  · rcases inStep_apply link lags regular pass with ⟨inStep, same⟩
    rcases inStep.sent with ⟨packets, sent, resent⟩
    exact ⟨⟨rfl, lags, ⟨packets, packets, sent, resent, .refl packets, fun _ => rfl⟩,
      inStep.written, .of_eq same⟩, inStep.lags⟩

theorem isPassive_of_isCheck (check : operation.IsCheck) : operation.IsPassive := by
  cases check with
  | checkLive handle => trivial
  | connectedCount => trivial
  | survey => trivial

theorem onlySessions_of_isCheck (link : LocalLink) (state : State Session)
    (check : operation.IsCheck) : state.OnlySessions (operation.apply link state).1 := by
  cases check with
  | checkLive handle => exact State.onlySessions_onChannel handle false _ state
  | connectedCount => exact State.onlySessions_connectedCount state
  | survey => exact State.onlySessions_survey state

theorem asks (link : LocalLink) (state : State Session) (check : operation.IsCheck) :
    Occurrence.Asks link ⟨state, operation⟩ := by
  have alone := onlySessions_of_isCheck link state check
  refine ⟨check, ?_, ?_, ?_⟩ <;> rw [Occurrence.next, alone]

theorem sweeps_of_isCheck (link : LocalLink) (keyed : state.Keyed) (check : operation.IsCheck) :
    ∃ handles, State.Sweeps (fun session => (session.checkLive state.clock).1) handles state
      (operation.apply link state).1 := by
  cases check with
  | checkLive handle => exact ⟨[handle], State.sweeps_onChannel_checkLive handle state⟩
  | connectedCount => exact ⟨state.registry.handles, State.sweeps_connectedCount keyed⟩
  | survey => exact ⟨state.registry.handles, State.sweeps_survey keyed⟩

/-- A server lags behind another all the same after the other was checked. -/
theorem lags_of_isCheck (lags : one.Lags other) (rekeyed : other.Keyed)
    (check : operation.IsCheck) : one.Lags (operation.apply link other).1 := by
  have alone := onlySessions_of_isCheck link other check
  have length := (rests_apply link other (isPassive_of_isCheck check)).length
  rcases sweeps_of_isCheck link rekeyed check with ⟨handles, sweeps⟩
  refine ⟨?_, ?_, ?_, ?_, ?_, ?_⟩
  · rw [sweeps.clock, lags.clock]
  · intro identity
    rw [sweeps.registry, lags.lookup]
  · rw [alone]
    exact lags.outages
  · rw [alone]
    exact lags.counters
  · rw [length, lags.length]
  · intro handle session counterpart known there
    rw [sweeps.channels] at there
    split at there
    · rcases Option.map_eq_some_iff.mp there with ⟨before, found, rfl⟩
      rw [lags.clock]
      exact (lags.sessions handle session before known found).checked
    · exact lags.sessions handle session counterpart known there

end SessionOperation

/-- Of two runs from a server without sessions, one of which is the other with checks put in anywhere,
each operation of the one sends the same packets to the same peers, writes the same datagrams to the
same sinks and answers the same as in the other, but for the number of timeouts that a heartbeat pass
reports; a check sends, writes and counts nothing.  In the end, and before each operation, both have the
same mapping and the same sessions but for links that have expired and that only the run with more
checks has given up, and the same counters but for the timeouts. -/
theorem checks_go_unnoticed {link : LocalLink} {origin : Clock} {events more : List Occurrence}
    {state counterpart : State Session} (history : History link origin events state)
    (checked : History link origin more counterpart)
    (inserted : SessionOperation.WithChecks (events.map Occurrence.operation)
      (more.map Occurrence.operation)) :
    Occurrence.Mirrored link events more ∧ state.Lags counterpart := by
  generalize listed : events.map Occurrence.operation = ones at inserted
  generalize relisted : more.map Occurrence.operation = others at inserted
  induction inserted generalizing events more state counterpart with
  | nil =>
      cases List.map_eq_nil_iff.mp listed
      cases List.map_eq_nil_iff.mp relisted
      cases history
      cases checked
      exact ⟨.nil, .refl _⟩
  | @kept _ _ operation regular earlier hypothesis =>
      rcases List.map_eq_cons_iff.mp listed with ⟨⟨left, _⟩, ones, rfl, rfl, tail⟩
      rcases List.map_eq_cons_iff.mp relisted with ⟨⟨right, _⟩, others, rfl, rfl, retail⟩
      cases history with
      | step history same _ indirect =>
          cases checked with
          | step checked resame _ _ =>
              rcases hypothesis history checked tail retail with ⟨mirrored, lags⟩
              rcases SessionOperation.mirrors (lags.reordered same resame)
                (history.keyed.reordered same) (checked.keyed.reordered resame) regular with
                ⟨mirrors, still⟩
              exact ⟨.both mirrors mirrored, still⟩
  | @check _ _ operation check earlier hypothesis =>
      rcases List.map_eq_cons_iff.mp relisted with ⟨⟨right, _⟩, others, rfl, rfl, retail⟩
      cases checked with
      | step checked resame _ _ =>
          rcases hypothesis history checked listed retail with ⟨mirrored, lags⟩
          have reordered := lags.reordered (.refl state.registry.entries) resame
          exact ⟨.asked (SessionOperation.asks link _ check) mirrored,
            SessionOperation.lags_of_isCheck reordered (checked.keyed.reordered resame) check⟩

/-- A survey before a heartbeat pass takes a timeout from its count, and nothing else. -/
theorem checks_go_unnoticed_survey :
    let peer : SocketAddress := .v4 Ipv4Address.unspecified 5072
    let connect : SessionOperation := .common (.installOrReplace 0 "local" peer)
    let wait : SessionOperation := .common (.advance 71000000000)
    let made := ((SessionOperation.create Sample.record).apply Sample.localLink Sample.empty).1
    let connected := (connect.apply Sample.localLink made).1
    let waited := (wait.apply Sample.localLink connected).1
    let surveyed := (SessionOperation.survey.apply Sample.localLink waited).1
    let earlier : List Occurrence :=
      [⟨connected, wait⟩, ⟨made, connect⟩, ⟨Sample.empty, .create Sample.record⟩]
    let events : List Occurrence := ⟨waited, .heartbeatPass⟩ :: earlier
    let more : List Occurrence := ⟨surveyed, .heartbeatPass⟩ :: ⟨waited, .survey⟩ :: earlier
    let state := (SessionOperation.heartbeatPass.apply Sample.localLink waited).1
    let counterpart := (SessionOperation.heartbeatPass.apply Sample.localLink surveyed).1
    History Sample.localLink Sample.empty.clock events state ∧
      History Sample.localLink Sample.empty.clock more counterpart ∧
      SessionOperation.WithChecks (events.map Occurrence.operation)
        (more.map Occurrence.operation) ∧
      Occurrence.Mirrored Sample.localLink events more ∧ state.Lags counterpart ∧
      state.counters.timeouts = 1 ∧ counterpart.counters.timeouts = 0 := by
  intro peer connect wait made connected waited surveyed earlier events more state counterpart
  have origin : History Sample.localLink Sample.empty.clock [] Sample.empty := .start
  have creation : ¬SessionOperation.Meddles (.create Sample.record) := id
  have connection : ¬connect.Meddles := id
  have waiting : ¬wait.Meddles := id
  have survey : ¬SessionOperation.Meddles .survey := id
  have pass : ¬SessionOperation.Meddles .heartbeatPass := id
  have before : History Sample.localLink Sample.empty.clock earlier waited :=
    ((origin.next creation).next connection).next waiting
  have history : History Sample.localLink Sample.empty.clock events state := before.next pass
  have checked : History Sample.localLink Sample.empty.clock more counterpart :=
    (before.next survey).next pass
  have same : SessionOperation.WithChecks (earlier.map Occurrence.operation)
      (earlier.map Occurrence.operation) :=
    .kept (.active (.advance _)) (.kept (.active (.installOrReplace _ _ _))
      (.kept (.active (.create _)) .nil))
  have inserted : SessionOperation.WithChecks (events.map Occurrence.operation)
      (more.map Occurrence.operation) := .kept .heartbeatPass (.check .survey same)
  rcases checks_go_unnoticed history checked inserted with ⟨mirrored, lags⟩
  exact ⟨history, checked, inserted, mirrored, lags, by decide, by decide⟩

end TunnelServer
