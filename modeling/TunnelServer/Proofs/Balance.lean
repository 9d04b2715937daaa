import Mathlib.Algebra.Group.Equiv.TypeTags
import TunnelServer.Proofs.Refusals
import TunnelServer.Proofs.Run.Output
import TunnelServer.Proofs.Run.Waste

/-!
# The books balance

Every packet that comes from a peer, every local datagram and every heartbeat that falls due has one
outcome, and each outcome is counted once: by the server, or by the session that could not use the
packet.  Only packets that are accepted as signs of life are not counted any further.
-/

namespace TunnelServer

namespace State

/-- A packet is authentic for the session that is mapped to the identity that it claims, and is a sign
of life. -/
def AcceptsNoop (packet : Bytes) (state : State Session) : Prop :=
  ∃ identity handle session verified,
    Packet.claimedSender? packet state.clock.epoch = some identity ∧
      state.registry.lookup identity = some handle ∧ state.channels[handle]? = some session ∧
      Packet.verify packet session.profile.key session.profile.senders state.clock.epoch
        Packet.Limits.standard = .ok verified ∧
      verified.header.opcode = .noop

end State

namespace Occurrence

/-- An event brings a packet that a session accepts as a sign of life. -/
def AcceptsNoop (event : Occurrence) : Prop :=
  ∃ packet ∈ event.received?, event.state.AcceptsNoop packet.1

/-- The heartbeats that are packed in an event. -/
def heartbeats (event : Occurrence) : List Transmission :=
  if event.isPass then event.packets.map Prod.snd else []

end Occurrence

/-! ## One packet, one datagram, one pass -/

theorem Profile.judge_eq_alive_iff {profile : Profile} {here : Epoch} {packet : Bytes} :
    profile.judge here packet = .alive ↔
      ∃ verified, Packet.verify packet profile.key profile.senders here Packet.Limits.standard =
        .ok verified ∧ verified.header.opcode = .noop := by
  simp only [judge]
  cases Packet.verify packet profile.key profile.senders here Packet.Limits.standard with
  | error error => simp
  | ok verified =>
      cases opcode : verified.header.opcode with
      | forward =>
          by_cases filled : verified.payload = []
          · simp [opcode, filled, Packet.Opcode.isActionable]
          · simp [opcode, filled, Packet.Opcode.isActionable]
      | _ => simp [opcode, Packet.Opcode.isActionable]

theorem Counters.outcomes_passedOver (outages : Outages) (found : List Finding) :
    outcomes (passedOver outages found 0) = (found.filterMap Finding.heartbeat?).length := by
  have parts := List.length_eq_length_filter_add (l := found.filterMap Finding.heartbeat?)
    fun heartbeat => heartbeat.peer ∉ outages.peers
  rw [parts]
  simp [outcomes, passedOver, zero_def, Finding.reaching, Finding.failing]

/-! ## Signs of life -/

namespace State

variable {state before after : State Session} {packet : Bytes} {localSink : Sink}
variable {source : SocketAddress}

theorem acceptsNoop_iff :
    state.AcceptsNoop packet ↔
      ∃ handle session, state.taker? packet = some (handle, session) ∧
        session.profile.judge state.clock.epoch packet = .alive := by
  simp only [taker?_eq_some_iff, Profile.judge_eq_alive_iff]
  constructor
  · rintro ⟨identity, handle, session, verified, claimed, mapped, known, authentic, noop⟩
    exact ⟨handle, session, ⟨identity, claimed, mapped, known⟩, verified, authentic, noop⟩
  · rintro ⟨handle, session, ⟨identity, claimed, mapped, known⟩, verified, authentic, noop⟩
    exact ⟨identity, handle, session, verified, claimed, mapped, known, authentic, noop⟩

theorem arrival_eq_alive_iff :
    state.arrival localSink packet source = .alive ↔ state.AcceptsNoop packet := by
  rw [acceptsNoop_iff]
  cases taker : state.taker? packet with
  | none =>
      rcases arrival_of_untaken taker localSink source with malformed | unclaimed
      · simp [malformed]
      · simp [unclaimed]
  | some taken =>
      rcases taken with ⟨handle, session⟩
      rw [arrival_of_taker? taker, Session.arrival]
      cases judged : session.profile.judge state.clock.epoch packet <;> simp [judged]

instance (packet : Bytes) (state : State Session) : Decidable (state.AcceptsNoop packet) :=
  decidable_of_iff ((state.taker? packet).any fun taker =>
      taker.2.profile.judge state.clock.epoch packet = .alive) (by
    simp [acceptsNoop_iff, Option.any_eq_true])

end State

instance : DecidablePred Occurrence.AcceptsNoop := fun event =>
  inferInstanceAs (Decidable (∃ packet ∈ event.received?, event.state.AcceptsNoop packet.1))

/-! ## One event -/

theorem State.unframed_readTally (unhandled : Option Sink) (bytes : Bytes)
    (state : State Session) :
    Counters.unframed (state.readTally unhandled bytes) =
      if ¬∃ datagrams, Datagram.IsRow datagrams bytes then 1 else 0 := by
  simp only [readTally]
  cases cut : Datagram.split bytes with
  | error error =>
      have unframed : ¬∃ datagrams, Datagram.IsRow datagrams bytes := by
        rintro ⟨datagrams, row⟩
        cases cut.symm.trans (Datagram.split_eq_ok_iff.mpr row)
      rw [if_pos unframed]
      rfl
  | ok datagrams =>
      have framed : ∃ datagrams, Datagram.IsRow datagrams bytes :=
        ⟨datagrams, Datagram.split_eq_ok_iff.mp cut⟩
      rw [if_neg (not_not.mpr framed), map_list_sum, List.map_map]
      apply List.sum_eq_zero
      intro counted member
      rcases List.mem_map.mp member with ⟨datagram, -, rfl⟩
      exact (Departure.measured_tally _ _ _).unframed

namespace Occurrence

variable {link : LocalLink} {event : Occurrence}

theorem acceptsNoop_packet {state : State Session} {bytes : Bytes} {source : SocketAddress} :
    AcceptsNoop ⟨state, .common (.packet bytes source)⟩ ↔ state.AcceptsNoop bytes := by
  simp [AcceptsNoop, received?]

theorem length_heartbeats (state : State Session) :
    (heartbeats ⟨state, .heartbeatPass⟩).length =
      ((state.findings state.registry.handles).filterMap Finding.heartbeat?).length := by
  rw [← State.map_heartbeats]
  rfl

theorem arrivals_tally (link : LocalLink) (event : Occurrence) :
    Counters.arrivals (event.tally link) = if event.received?.isSome then 1 else 0 := by
  have read : Counters.arrivals
      (event.reads.map fun bytes => event.state.readTally link.unhandled bytes).sum = 0 :=
    event.sum_reads_eq_zero Counters.arrivals rfl link.unhandled fun departure =>
      (departure.measured_tally _ _).arrivals
  rcases event with ⟨state, operation⟩
  cases operation with
  | common operation =>
      cases operation with
      | packet bytes source => exact (Arrival.measured_tally _ _).arrivals
      | _ => exact read
  | heartbeatPass => rfl
  | _ => exact read

/-- The outcomes that are counted in an event, by the server or by a session, are as many as there are
packets that come, datagrams and heartbeats, but for signs of life. -/
theorem outcomes_tally (link : LocalLink) (event : Occurrence) :
    (if event.received?.isSome then 1 else 0) + (event.datagrams.length + event.heartbeats.length) =
      Counters.outcomes (event.tally link) +
        ((if event.Wastes link then 1 else 0) + (if event.AcceptsNoop then 1 else 0)) := by
  have read : Counters.outcomes
      (event.reads.map fun bytes => event.state.readTally link.unhandled bytes).sum =
        event.datagrams.length := by
    refine (event.sum_reads Counters.outcomes rfl link.unhandled).trans ?_
    simp only [(Departure.measured_tally _ _ _).outcomes, List.map_const', List.sum_replicate_nat,
      Nat.mul_one]
  rcases event with ⟨state, operation⟩
  cases operation with
  | common operation =>
      cases operation with
      | packet bytes source =>
          have one := (Arrival.measured_tally state.outages
            (state.arrival link.sink bytes source)).outcomes
          simp only [State.arrival_eq_alive_iff] at one
          simp only [wastes_packet, acceptsNoop_packet]
          exact one.symm
      | _ => exact (Nat.zero_add _).trans read.symm
  | heartbeatPass =>
      have counted := Counters.outcomes_passedOver state.outages
        (state.findings state.registry.handles)
      rw [← length_heartbeats] at counted
      exact (Nat.zero_add _).trans ((Nat.zero_add _).trans counted.symm)
  | _ => exact (Nat.zero_add _).trans read.symm

/-- Of the reads of an event those count as framing errors that are no rows of datagrams. -/
theorem unframed_tally (link : LocalLink) (event : Occurrence) :
    Counters.unframed (event.tally link) =
      event.reads.countP fun bytes => ¬∃ datagrams, Datagram.IsRow datagrams bytes := by
  have read : Counters.unframed
      (event.reads.map fun bytes => event.state.readTally link.unhandled bytes).sum =
        event.reads.countP fun bytes => ¬∃ datagrams, Datagram.IsRow datagrams bytes := by
    rw [map_list_sum, List.map_map, ← sum_map_indicator]
    apply congrArg List.sum
    apply List.map_congr_left
    intro bytes _
    exact State.unframed_readTally link.unhandled bytes event.state
  rcases event with ⟨state, operation⟩
  cases operation with
  | common operation =>
      cases operation with
      | packet bytes source => exact (Arrival.measured_tally _ _).unframed
      | _ => exact read
  | heartbeatPass => rfl
  | _ => exact read

end Occurrence

namespace Chronicle

variable {link : LocalLink} {permitted : SessionOperation → Prop} {origin : Clock}
variable {events : List Occurrence} {state : State Session}

/-- Over a whole run there are as many outcomes as there are packets, datagrams and heartbeats. -/
theorem outcomes_eq (chronicle : Chronicle link permitted origin events state) :
    state.counters.received + (events.map fun event => event.datagrams.length).sum +
        (events.map fun event => event.heartbeats.length).sum =
      Counters.outcomes state.counters + (events.countP fun event => event.Wastes link) +
        events.countP Occurrence.AcceptsNoop := by
  have received : state.counters.received = _ := chronicle.measure_eq Counters.arrivals
  rw [received, chronicle.measure_eq Counters.outcomes, ← sum_map_indicator, ← sum_map_indicator,
    add_assoc, add_assoc, ← List.sum_map_add, ← List.sum_map_add, ← List.sum_map_add,
    ← List.sum_map_add]
  apply congrArg List.sum
  apply List.map_congr_left
  intro event _
  rw [event.arrivals_tally]
  exact event.outcomes_tally link

end Chronicle

/-- Every packet that comes from a peer, every datagram of a read and every heartbeat that is packed has
exactly one outcome.  A packet is dropped for its header or for its tunnel, counted as invalid by a
session, taken for a sign of life, delivered, or lost to a sink; a datagram or a heartbeat is sent, lost
to a peer or to a sink, dropped, passed on or refused.  Reads that are no rows of datagrams are counted
apart, and what is counted as sent, delivered or passed on has gone out. -/
theorem packets_and_datagrams_balance {link : LocalLink} {origin : Clock}
    {events : List Occurrence} {state : State Session}
    (chronicle : Chronicle link (fun operation => ¬operation.HandsPacket) origin events state) :
    state.counters.received + (events.map fun event => event.datagrams.length).sum +
        (events.map fun event => event.heartbeats.length).sum =
      state.counters.precheckDrops + state.counters.unknownTunnelDrops + state.invalidTotal +
        (events.countP fun event => event.AcceptsNoop) + state.counters.delivered +
        state.counters.sinkErrors + state.counters.sent + state.counters.sendErrors +
        state.counters.noRouteDrops + state.counters.passedUnhandled + state.counters.rejected +
        state.counters.stateErrors ∧
      state.counters.received = (events.countP fun event => event.received?.isSome) ∧
      state.counters.framingErrors = (events.map fun event => event.reads.countP fun bytes =>
        ¬∃ datagrams, Datagram.IsRow datagrams bytes).sum ∧
      state.counters.sent = state.sent.length ∧
      state.counters.heartbeats ≤ state.counters.sent ∧
      state.counters.delivered + state.counters.passedUnhandled = state.written.length := by
  refine ⟨?_, ?_, ?_, chronicle.booked.sent, chronicle.booked.heartbeats, chronicle.booked.written⟩
  · have total := chronicle.invalidTotal_eq fun operation apart => apart
    rw [chronicle.outcomes_eq, ← total, Counters.outcomes_eq]
    omega
  · refine (chronicle.measure_eq Counters.arrivals).trans ?_
    simp only [Occurrence.arrivals_tally]
    simpa using sum_map_indicator (fun event : Occurrence => event.received?.isSome = true) events
  · refine (chronicle.measure_eq Counters.unframed).trans ?_
    simp only [Occurrence.unframed_tally]

/-! ## A short run -/

namespace Sample

/-- What a peer sends to show that it is there. -/
def greeting : Bytes := Packet.encode (.heartbeat identity 1700000000) record.sharedKey []

/-- A session is connected and left alone for a heartbeat interval.  Then it is due for a heartbeat, its
peer shows that it is there, and a datagram comes for its tunnel. -/
def pumping : List SessionOperation :=
  [.create record, .common (.installOrReplace 0 "local" (.v4 Ipv4Address.unspecified 5072)),
    .common (.advance 60000000000), .heartbeatPass,
    .common (.packet greeting (.v4 Ipv4Address.unspecified 5072)), .common (.localRead destined)]

theorem acceptsNoop_greeting :
    (SessionOperation.run localLink empty (pumping.take 4)).1.AcceptsNoop greeting := by
  have close : Packet.Limits.standard.acceptsSkew 1700000000 1700000060 = true := by decide
  have authentic : Packet.verify greeting record.sharedKey [identity, record.pop] 1700000060
      Packet.Limits.standard = .ok ⟨.heartbeat identity 1700000000, []⟩ := by
    refine Packet.verify_eq_ok_iff.mpr ⟨rfl, List.mem_cons_self, close, ?_, nofun⟩
    rw [greeting, Packet.length_encode]
    decide
  have claimed : Packet.claimedSender? greeting 1700000060 = some identity :=
    Packet.claimedSender?_eq_some_iff.mpr ⟨_, Packet.readHeader_of_verify authentic, rfl⟩
  have known : (SessionOperation.run localLink empty (pumping.take 4)).1.channels[0]? =
      some { connected record "local" with lastSent := 60000000000 } := rfl
  exact ⟨identity, 0, _, _, claimed, rfl, known, authentic, rfl⟩

end Sample

/-- The run brings a packet, a heartbeat and a datagram, and so it has three outcomes. -/
theorem pumped_server_balances :
    let events := SessionOperation.occurrences Sample.localLink [] Sample.empty Sample.pumping
    let state := (SessionOperation.run Sample.localLink Sample.empty Sample.pumping).1
    Chronicle Sample.localLink (fun operation => ¬operation.HandsPacket) Sample.empty.clock events
        state ∧
      (∃ event ∈ events, event.AcceptsNoop) ∧
      Counters.outcomes state.counters + state.invalidTotal +
        (events.countP fun event => event.AcceptsNoop) = 3 := by
  intro events state
  have origin : Chronicle Sample.localLink (fun operation => ¬operation.HandsPacket)
      Sample.empty.clock [] Sample.empty := .start
  have chronicle : Chronicle Sample.localLink (fun operation => ¬operation.HandsPacket)
      Sample.empty.clock events state :=
    origin.run Sample.pumping (by simp [Sample.pumping, SessionOperation.HandsPacket])
  have row (state : State Session) : Occurrence.datagrams
      ⟨state, .common (.localRead Sample.destined)⟩ = [Sample.destined] :=
    Datagram.rowOf_of_isRow Sample.isRow_destined
  have packets : (events.countP fun event => event.received?.isSome) = 1 := rfl
  have heartbeats : (events.map fun event => event.heartbeats.length).sum = 1 := rfl
  have datagrams : (events.map fun event => event.datagrams.length).sum = 1 := by
    simp only [events, Sample.pumping, SessionOperation.occurrences, List.map_cons, row]
    rfl
  rcases packets_and_datagrams_balance chronicle with ⟨balance, received, -⟩
  refine ⟨chronicle, ?_, ?_⟩
  · refine ⟨_, List.mem_cons_of_mem _ List.mem_cons_self, ?_⟩
    exact Occurrence.acceptsNoop_packet.mpr Sample.acceptsNoop_greeting
  · rw [received, packets, datagrams, heartbeats] at balance
    rw [Counters.outcomes_eq]
    omega

end TunnelServer
