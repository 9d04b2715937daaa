import Mathlib.Algebra.GroupWithZero.Nat
import Mathlib.Algebra.Order.BigOperators.Group.List
import Mathlib.Algebra.Order.Group.Nat
import TunnelServer.Proofs.Heartbeats
import TunnelServer.Proofs.Run.Reading
import TunnelServer.Proofs.Run.Seats

/-!
# What the count of timeouts tells

A session whose peer has been silent for too long gives up its link when it is next checked, whoever
checks it: a heartbeat pass, a survey, a count of the connected sessions, a local datagram for its
tunnel or a packet from its tunnel.  The count of timeouts is kept by the heartbeat pass alone.  So it
counts each timeout that a pass is the first to notice, once, and no other; it is the number of all
timeouts if and only if nothing but a pass ever noticed one.
-/

namespace TunnelServer

/-- The operations of a server whose mapping is settled: time goes by, packets and local reads come in,
peers and sinks fail or recover, and all mapped sessions are looked after. -/
inductive SessionOperation.IsTraffic : SessionOperation → Prop where
  | advance (nanos : Nat) : IsTraffic (.common (.advance nanos))
  | outages (present : Outages) : IsTraffic (.common (.outages present))
  | packet (bytes : Bytes) (source : SocketAddress) : IsTraffic (.common (.packet bytes source))
  | localRead (bytes : Bytes) : IsTraffic (.common (.localRead bytes))
  | connectedCount : IsTraffic (.common .connectedCount)
  | heartbeatPass : IsTraffic .heartbeatPass
  | survey : IsTraffic .survey

/-- What has happened to a server since some state, the latest event first, while its mapping was
settled.  Each operation may find the registry's entries in any order. -/
inductive Stretch (link : LocalLink) (origin : State Session) :
    List Occurrence → State Session → Prop where
  | start : Stretch link origin [] origin
  | step {events : List Occurrence} {state : State Session} {registry : Registry}
      {operation : SessionOperation} (earlier : Stretch link origin events state)
      (same : registry.entries.Perm state.registry.entries) (traffic : operation.IsTraffic) :
      Stretch link origin (⟨{ state with registry := registry }, operation⟩ :: events)
        (operation.apply link { state with registry := registry }).1

/-- Whether a session has expired and still has its link. -/
def State.hasExpired (handle : Handle) (state : State Session) : Bool :=
  state.channels[handle]?.any (Session.hasExpired state.clock)

namespace Occurrence

/-- How many mapped sessions give up their links in an event, since they have expired.  A session that
is linked anew in the same event is among them. -/
def expiries (link : LocalLink) (event : Occurrence) : Nat :=
  event.state.registry.handles.countP fun handle =>
    event.state.hasExpired handle && !(event.next link).hasExpired handle

/-- An event asks whether a mapped session is connected. -/
inductive Checks (handle : Handle) : Occurrence → Prop where
  | pass {state : State Session} : Checks handle ⟨state, .heartbeatPass⟩
  | survey {state : State Session} : Checks handle ⟨state, .survey⟩
  | connectedCount {state : State Session} : Checks handle ⟨state, .common .connectedCount⟩
  | packet {state : State Session} {bytes : Bytes} {source : SocketAddress} {identity : Identity}
      (claimed : Packet.claimedSender? bytes state.clock.epoch = some identity)
      (mapped : state.registry.lookup identity = some handle) :
      Checks handle ⟨state, .common (.packet bytes source)⟩
  | localRead {state : State Session} {datagrams : List Bytes} {bytes datagram : Bytes}
      {identity : Identity} (row : Datagram.IsRow datagrams bytes) (among : datagram ∈ datagrams)
      (destination : Datagram.destination? datagram = some identity)
      (mapped : state.registry.lookup identity = some handle) :
      Checks handle ⟨state, .common (.localRead bytes)⟩

end Occurrence

variable {link : LocalLink} {origin state before after : State Session} {event : Occurrence}
variable {events : List Occurrence} {handle : Handle} {session : Session}

/-! ## When a session gives up its link -/

namespace Session

variable {clock : Clock} {datagrams : List Bytes}

theorem hasExpired_checkLive (clock : Clock) (session : Session) :
    (session.checkLive clock).1.hasExpired clock = false := by
  rw [fst_checkLive]
  cases expired : session.hasExpired clock with
  | true => exact hasExpired_of_unlinked rfl
  | false => exact expired

theorem hasExpired_carryEach (some : datagrams ≠ []) (expired : session.hasExpired clock = true) :
    (session.carryEach clock datagrams).hasExpired clock = false := by
  rw [carryEach_of_not_isLive (isLive_of_hasExpired expired) some]
  exact hasExpired_of_unlinked rfl

theorem hasExpired_accept {localSink : Sink} {source : SocketAddress} {packet : Bytes}
    (enough : Packet.headerLength ≤ packet.length) :
    (Channel.accept clock localSink source packet session).1.hasExpired clock = false := by
  have attached := attached_accept clock localSink source session enough
  have heard : clock.now - (Channel.accept clock localSink source packet session).1.lastReceived =
      0 := by
    rw [attached.heard, Nat.sub_self]
  simp only [hasExpired, heard, Nat.not_lt_zero, decide_false, Bool.and_false]

end Session

namespace State

theorem hasExpired_of_known (known : state.channels[handle]? = some session) :
    state.hasExpired handle = session.hasExpired state.clock := by
  rw [hasExpired, known, Option.any_some]

theorem hasExpired_of_same (clock : after.clock = before.clock)
    (channel : after.channels[handle]? = before.channels[handle]?) :
    after.hasExpired handle = before.hasExpired handle := by
  rw [hasExpired, hasExpired, clock, channel]

theorem Sweeps.hasExpired
    (sweeps : Sweeps (fun session => (session.checkLive before.clock).1) before.registry.handles
      before after)
    (mapped : handle ∈ before.registry.handles) (known : before.channels[handle]? = some session) :
    after.hasExpired handle = false := by
  rw [hasExpired_of_known (sweeps.getElem?_of_mapped mapped known), sweeps.clock]
  exact Session.hasExpired_checkLive before.clock session

theorem hasExpired_heartbeatPass (keyed : state.Keyed) (mapped : handle ∈ state.registry.handles)
    (known : state.channels[handle]? = some session) :
    state.heartbeatPass.1.hasExpired handle = false := by
  have swept := (visits_heartbeatPass keyed).sweeps
  rw [hasExpired_of_known (swept.getElem?_of_mapped mapped known), swept.clock]
  cases expired : session.hasExpired state.clock with
  | true =>
      simp only [Session.passed, Session.finding_of_hasExpired expired]
      exact Session.hasExpired_of_unlinked rfl
  | false =>
      have stays : session.finding state.clock ≠ .expired := by
        rw [ne_eq, Session.finding_eq_expired_iff, expired]
        exact Bool.false_ne_true
      simp only [Session.passed]
      split
      · exact expired
      · contradiction
      · exact expired
      · exact expired

theorem hasExpired_advance {nanos : Nat} (expired : state.hasExpired handle = true) :
    State.hasExpired handle { state with clock := state.clock.advance nanos } = true := by
  rw [hasExpired, Option.any_eq_true] at expired ⊢
  rcases expired with ⟨session, known, expired⟩
  refine ⟨session, known, ?_⟩
  simp only [Session.hasExpired, Bool.and_eq_true, decide_eq_true_eq] at expired ⊢
  refine ⟨expired.1, Nat.lt_of_lt_of_le expired.2 ?_⟩
  exact Nat.sub_le_sub_right (Nat.le_add_right state.clock.now nanos) session.lastReceived

end State

namespace Occurrence

/-- A packet makes a session give up its link if it is the one that the packet claims to belong to. -/
theorem relieved_packet_iff {bytes : Bytes} {source : SocketAddress}
    (known : state.channels[handle]? = some session)
    (expired : session.hasExpired state.clock = true) :
    (state.takePacket link.sink bytes source).hasExpired handle = false ↔
      Checks handle ⟨state, .common (.packet bytes source)⟩ := by
  have clock := (State.sameTunnels_takePacket link.sink bytes source state).clock
  constructor
  · intro relieved
    by_contra unchecked
    rw [State.hasExpired_of_same clock, State.hasExpired_of_known known, expired] at relieved
    · cases relieved
    · apply State.getElem?_takePacket_of_elsewhere
      intro sender claimed mapped
      exact unchecked (.packet claimed mapped)
  · intro checks
    cases checks with
    | packet claimed mapped =>
        have taken := State.getElem?_takePacket_of_claimed link.sink source claimed mapped known
        rw [State.hasExpired_of_known taken, clock]
        exact Session.hasExpired_accept (State.length_of_claimedSender? claimed)

/-- A read makes a session give up its link if one of its datagrams is for the session's tunnel. -/
theorem relieved_localRead_iff (keyed : state.Keyed) {bytes : Bytes} {identity : Identity}
    (mapped : state.registry.lookup identity = some handle)
    (known : state.channels[handle]? = some session)
    (expired : session.hasExpired state.clock = true) :
    (state.takeRead link.unhandled bytes).hasExpired handle = false ↔
      Checks handle ⟨state, .common (.localRead bytes)⟩ := by
  have clock := (State.rests_takeRead link.unhandled bytes state).clock
  constructor
  · intro relieved
    by_cases framed : ∃ datagrams, Datagram.IsRow datagrams bytes
    · rcases framed with ⟨datagrams, row⟩
      have read := State.getElem?_takeRead link.unhandled keyed row mapped known
      rw [State.hasExpired_of_known read, clock] at relieved
      cases mine : Datagram.destinedFor identity datagrams with
      | nil =>
          rw [mine] at relieved
          cases expired.symm.trans relieved
      | cons datagram rest =>
          have member : datagram ∈ Datagram.destinedFor identity datagrams := by simp [mine]
          rcases List.mem_filter.mp member with ⟨among, destination⟩
          exact .localRead row among (of_decide_eq_true destination) mapped
    · have same : (state.takeRead link.unhandled bytes).channels[handle]? =
          state.channels[handle]? := by
        rw [State.takeRead_of_not_isRow framed]
        rfl
      rw [State.hasExpired_of_same clock same, State.hasExpired_of_known known, expired] at relieved
      cases relieved
  · intro checks
    cases checks with
    | @localRead _ datagrams _ datagram destined row among destination claimed =>
        rw [keyed.injective claimed mapped] at destination
        have member : datagram ∈ Datagram.destinedFor identity datagrams :=
          List.mem_filter.mpr ⟨among, decide_eq_true destination⟩
        have read := State.getElem?_takeRead link.unhandled keyed row mapped known
        rw [State.hasExpired_of_known read, clock]
        exact Session.hasExpired_carryEach (List.ne_nil_of_mem member) expired

/-- A mapped session that has expired gives up its link when it is checked, and not before. -/
theorem relieved_iff_checks (keyed : event.state.Keyed) (traffic : event.operation.IsTraffic)
    (mapped : handle ∈ event.state.registry.handles)
    (expired : event.state.hasExpired handle = true) :
    (event.next link).hasExpired handle = false ↔ event.Checks handle := by
  rcases event with ⟨state, operation⟩
  rcases Registry.mem_handles_iff.mp mapped with ⟨identity, lookup⟩
  rcases keyed identity handle lookup with ⟨session, known, -⟩
  have overdue : session.hasExpired state.clock = true :=
    (State.hasExpired_of_known known).symm.trans expired
  cases traffic with
  | advance nanos =>
      have still : (next link ⟨state, .common (.advance nanos)⟩).hasExpired handle = true :=
        State.hasExpired_advance expired
      exact iff_of_false (ne_false_of_eq_true still) nofun
  | outages present =>
      have still : (next link ⟨state, .common (.outages present)⟩).hasExpired handle = true :=
        expired
      exact iff_of_false (ne_false_of_eq_true still) nofun
  | packet bytes source => exact relieved_packet_iff known overdue
  | localRead bytes => exact relieved_localRead_iff keyed lookup known overdue
  | connectedCount =>
      exact iff_of_true ((State.sweeps_connectedCount keyed).hasExpired mapped known)
        .connectedCount
  | heartbeatPass =>
      exact iff_of_true (State.hasExpired_heartbeatPass keyed mapped known) .pass
  | survey =>
      exact iff_of_true ((State.sweeps_survey keyed).hasExpired mapped known) .survey

end Occurrence

/-! ## What is counted -/

namespace State

theorem timeouts_perform (action : Action) (state : State Session) :
    (state.perform action).counters.timeouts = state.counters.timeouts := by
  cases action with
  | nothing => rfl
  | deliver payload sink =>
      rw [perform_deliver]
      split <;> rfl

theorem timeouts_takePacket (localSink : Sink) (packet : Bytes) (source : SocketAddress)
    (state : State Session) :
    (state.takePacket localSink packet source).counters.timeouts = state.counters.timeouts := by
  simp only [takePacket]
  split
  · rfl
  · split
    · rfl
    · split
      · rw [timeouts_perform]
        rfl
      · simp only [countRefusal]
        split <;> rfl

theorem timeouts_takeRead (unhandled : Option Sink) (bytes : Bytes) (state : State Session) :
    (state.takeRead unhandled bytes).counters.timeouts = state.counters.timeouts := by
  simp only [takeRead]
  split
  · rfl
  · exact view_foldl (fun state : State Session => state.counters.timeouts) _
      (fun state datagram => congrArg Prod.snd (standing_route unhandled datagram state)) _ state

/-- The mapped sessions that a pass finds expired are those that had expired. -/
theorem count_findings (handles : List Handle) (state : State Session) :
    (state.findings handles).count .expired = handles.countP state.hasExpired := by
  rw [findings, List.count, List.countP_filterMap]
  apply List.countP_congr
  intro handle _
  cases known : state.channels[handle]? with
  | none => simp [hasExpired, known]
  | some session =>
      rw [hasExpired_of_known known]
      simp [Session.finding_eq_expired_iff]

end State

namespace Occurrence

theorem expiries_pass (keyed : event.state.Keyed) (pass : event.isPass = true) :
    event.expiries link = event.state.registry.handles.countP event.state.hasExpired := by
  apply List.countP_congr
  intro handle mapped
  rcases Registry.mem_handles_iff.mp mapped with ⟨identity, lookup⟩
  rcases keyed identity handle lookup with ⟨session, known, -⟩
  have relieved := State.hasExpired_heartbeatPass keyed mapped known
  rcases event with ⟨state, operation⟩
  cases operation with
  | heartbeatPass =>
      have after : (next link ⟨state, .heartbeatPass⟩).hasExpired handle = false := relieved
      rw [after, Bool.not_false, Bool.and_true]
  | _ => cases pass

/-- A heartbeat pass counts the mapped sessions that give up their links in it, and nothing else
counts any. -/
theorem timeouts_next (keyed : event.state.Keyed) (traffic : event.operation.IsTraffic) :
    (event.next link).counters.timeouts =
      event.state.counters.timeouts + if event.isPass then event.expiries link else 0 := by
  rcases event with ⟨state, operation⟩
  cases traffic with
  | advance nanos => rfl
  | outages present => rfl
  | packet bytes source => exact State.timeouts_takePacket link.sink bytes source state
  | localRead bytes => exact State.timeouts_takeRead link.unhandled bytes state
  | connectedCount =>
      exact congrArg (fun state => state.counters.timeouts) (State.onlySessions_connectedCount state)
  | heartbeatPass =>
      have counters := (State.visits_heartbeatPass keyed).counters
      have counted : state.heartbeatPass.1.counters.timeouts =
          state.counters.timeouts + (state.findings state.registry.handles).count .expired := by
        rw [counters]
        rfl
      have pass : isPass ⟨state, .heartbeatPass⟩ = true := rfl
      rw [if_pos pass, expiries_pass keyed pass, ← State.count_findings]
      exact counted
  | survey =>
      exact congrArg (fun state => state.counters.timeouts) (State.onlySessions_survey state)

end Occurrence

/-! ## A whole stretch -/

namespace Stretch

theorem reachable (stretch : Stretch link origin events state)
    (start : Reachable link (fun _ => True) origin) : Reachable link (fun _ => True) state := by
  rcases start with ⟨clock, leads⟩
  refine ⟨clock, ?_⟩
  induction stretch with
  | start => exact leads
  | step _ same _ hypothesis => exact (hypothesis.reordered same).step _ trivial

theorem of_mem (stretch : Stretch link origin events state)
    (start : Reachable link (fun _ => True) origin) (member : event ∈ events) :
    event.state.Keyed ∧ event.operation.IsTraffic := by
  induction stretch with
  | start => cases member
  | step earlier same traffic hypothesis =>
      rcases List.mem_cons.mp member with rfl | before
      · exact ⟨(earlier.reachable start).keyed.reordered same, traffic⟩
      · exact hypothesis before

theorem timeouts_eq (stretch : Stretch link origin events state)
    (start : Reachable link (fun _ => True) origin) :
    state.counters.timeouts = origin.counters.timeouts +
      ((events.filter fun event => event.isPass).map (Occurrence.expiries link)).sum := by
  induction stretch with
  | start => rfl
  | @step events state registry operation earlier same traffic hypothesis =>
      let event : Occurrence := ⟨{ state with registry := registry }, operation⟩
      have keyed : event.state.Keyed := (earlier.reachable start).keyed.reordered same
      have counted : (event.next link).counters.timeouts = state.counters.timeouts +
          if event.isPass then event.expiries link else 0 := Occurrence.timeouts_next keyed traffic
      change (event.next link).counters.timeouts = _
      rw [counted, hypothesis, List.filter_cons]
      by_cases pass : event.isPass
      · rw [if_pos pass, if_pos pass, List.map_cons, List.sum_cons, Nat.add_assoc,
          Nat.add_comm (List.sum _)]
      · rw [if_neg pass, if_neg pass, Nat.add_zero]

end Stretch

/-- Over any stretch in which the mapping is settled, the count of timeouts rises by the number of
sessions that gave up their links in heartbeat passes.  That is the number of all mapped sessions that
gave up their links since they had expired, if and only if none did outside a pass.  An expired session
gives up its link in the first event that asks whether it is connected, of whatever kind. -/
theorem timeouts_count_passes (start : Reachable link (fun _ => True) origin)
    (stretch : Stretch link origin events state) :
    state.counters.timeouts = origin.counters.timeouts +
        ((events.filter fun event => event.isPass).map (Occurrence.expiries link)).sum ∧
      (state.counters.timeouts =
          origin.counters.timeouts + (events.map (Occurrence.expiries link)).sum ↔
        ∀ event ∈ events, ¬event.isPass → event.expiries link = 0) ∧
      (∀ event ∈ events, ∀ handle ∈ event.state.registry.handles,
        event.state.hasExpired handle = true →
          ((event.next link).hasExpired handle = false ↔ event.Checks handle)) := by
  have counted := stretch.timeouts_eq start
  refine ⟨counted, ?_, ?_⟩
  · have parts := List.sum_map_filter_add_sum_map_filter_not (fun event => event.isPass = true)
      (Occurrence.expiries link) events
    simp only [Bool.decide_eq_true] at parts
    rw [counted, ← parts, Nat.add_right_inj, Nat.left_eq_add, List.sum_eq_zero_iff]
    constructor
    · intro none event member outside
      apply none
      exact List.mem_map_of_mem (List.mem_filter.mpr ⟨member, decide_eq_true outside⟩)
    · intro none number member
      rcases List.mem_map.mp member with ⟨event, among, rfl⟩
      rcases List.mem_filter.mp among with ⟨before, outside⟩
      exact none event before (of_decide_eq_true outside)
  · intro event member handle mapped expired
    rcases stretch.of_mem start member with ⟨keyed, traffic⟩
    exact Occurrence.relieved_iff_checks keyed traffic mapped expired

/-! ## The small server -/

namespace Sample

/-- The small server, connected and then left alone for seventy-one seconds. -/
def connecting : Occurrence where
  state := server
  operation := .common (.installOrReplace 0 "local" (.v4 Ipv4Address.unspecified 5072))

def waiting : Occurrence where
  state := connecting.next localLink
  operation := .common (.advance 71000000000)

/-- A datagram without a payload for the tunnel of the small server. -/
def destined : Bytes := [0x60, 0, 0, 0, 0, 0, 59, 64] ++ List.replicate 16 0 ++ identity.octets

theorem isRow_destined : Datagram.IsRow [destined] destined := by
  have whole : Datagram.IsWhole destined := rfl
  exact ⟨by simp, by simpa using whole, by simp⟩

theorem reachable_connecting : Reachable localLink (fun _ => True) waiting.state :=
  (reachable_server trivial trivial).run [connecting.operation] fun _ _ => trivial

theorem stretch_waiting :
    Stretch localLink waiting.state [waiting] (waiting.next localLink) :=
  .step .start (.refl _) (.advance 71000000000)

end Sample

/-- A pass that is the first to notice a timeout counts it. -/
theorem timeouts_count_pass :
    let pass : Occurrence := ⟨Sample.waiting.next Sample.localLink, .heartbeatPass⟩
    let state := pass.next Sample.localLink
    Reachable Sample.localLink (fun _ => True) Sample.waiting.state ∧
      Stretch Sample.localLink Sample.waiting.state [pass, Sample.waiting] state ∧
      state.counters.timeouts = 1 := by
  intro pass state
  have stretch : Stretch Sample.localLink Sample.waiting.state [pass, Sample.waiting] state :=
    Sample.stretch_waiting.step (.refl _) .heartbeatPass
  refine ⟨Sample.reachable_connecting, stretch, ?_⟩
  rw [(timeouts_count_passes Sample.reachable_connecting stretch).1]
  rfl

/-- A session gives up its link since it has expired, and the count of timeouts stays at zero, if a
local datagram for its tunnel comes before the next pass. -/
theorem timeouts_miss_read :
    let read : Occurrence :=
      ⟨Sample.waiting.next Sample.localLink, .common (.localRead Sample.destined)⟩
    let state := read.next Sample.localLink
    let events := [read, Sample.waiting]
    Reachable Sample.localLink (fun _ => True) Sample.waiting.state ∧
      Sample.waiting.state.counters = {} ∧
      Stretch Sample.localLink Sample.waiting.state events state ∧
      state.counters.timeouts = 0 ∧
      (events.map (Occurrence.expiries Sample.localLink)).sum = 1 := by
  intro read state events
  have stretch : Stretch Sample.localLink Sample.waiting.state events state :=
    Sample.stretch_waiting.step (.refl _) (.localRead Sample.destined)
  have mapped : read.state.registry.lookup Sample.identity = some 0 := rfl
  have known : read.state.channels[0]? = some (Sample.connected Sample.record "local") := rfl
  have expired : Session.hasExpired read.state.clock (Sample.connected Sample.record "local") =
      true := by decide
  have checks : read.Checks 0 := .localRead Sample.isRow_destined List.mem_cons_self rfl mapped
  have relieved : (read.next Sample.localLink).hasExpired 0 = false := by
    have keyed := (Sample.stretch_waiting.reachable Sample.reachable_connecting).keyed
    exact (Occurrence.relieved_localRead_iff keyed mapped known expired).mpr checks
  have missed : read.expiries Sample.localLink = 1 := by
    have handles : read.state.registry.handles = [0] := rfl
    have before : read.state.hasExpired 0 = true :=
      (State.hasExpired_of_known known).trans expired
    simp [Occurrence.expiries, handles, before, relieved]
  refine ⟨Sample.reachable_connecting, rfl, stretch, ?_, ?_⟩
  · exact State.timeouts_takeRead _ Sample.destined read.state
  · rw [List.map_cons, missed]
    rfl

end TunnelServer
