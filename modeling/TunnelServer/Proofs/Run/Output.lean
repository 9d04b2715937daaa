import TunnelServer.Proofs.Run.Tally

/-!
# What has gone out

Packets are counted as sent when their peer has taken them, and datagrams as delivered or passed on when
a sink has.  So the counters tell how many packets and how many datagrams have gone out.
-/

namespace TunnelServer

namespace State

/-- What the counters say has gone out has gone out. -/
structure Booked (state : State Session) : Prop where
  sent : state.counters.sent = state.sent.length
  written : state.counters.delivered + state.counters.passedUnhandled = state.written.length
  heartbeats : state.counters.heartbeats ≤ state.counters.sent

variable {state before after : State Session}

theorem Booked.of_books (booked : before.Booked) (same : after.books = before.books) :
    after.Booked := by
  have counters : after.counters = before.counters := congrArg Prod.fst same
  have sent : after.sent = before.sent := congrArg (fun books => books.2.1) same
  have written : after.written = before.written := congrArg (fun books => books.2.2) same
  constructor
  · rw [counters, sent, booked.sent]
  · rw [counters, written, booked.written]
  · rw [counters]
    exact booked.heartbeats

theorem Booked.put (booked : state.Booked) (handle : Handle) (session : Session) :
    (state.put handle session).Booked :=
  booked.of_books rfl

theorem Booked.takePacket (booked : state.Booked) (localSink : Sink) (packet : Bytes)
    (source : SocketAddress) : (state.takePacket localSink packet source).Booked := by
  rcases booked with ⟨sent, written, heartbeats⟩
  rw [takePacket_eq]
  cases state.arrival localSink packet source with
  | carried delivery =>
      by_cases down : delivery.sink ∈ state.outages.sinks
      · constructor <;> simp [Arrival.tally, Arrival.writes, Counters.add_def, down] <;> omega
      · constructor <;> simp [Arrival.tally, Arrival.writes, Counters.add_def, down] <;> omega
  | _ => constructor <;> simp [Arrival.tally, Arrival.writes, Counters.add_def] <;> omega

theorem Booked.passUnhandled (booked : state.Booked) (unhandled : Option Sink) (datagram : Bytes) :
    (state.passUnhandled unhandled datagram).Booked := by
  rcases booked with ⟨sent, written, heartbeats⟩
  cases unhandled with
  | none => exact ⟨sent, written, heartbeats⟩
  | some sink =>
      rw [passUnhandled_some]
      split
      · exact ⟨sent, written, heartbeats⟩
      · refine ⟨sent, ?_, heartbeats⟩
        simp only [count, List.length_append, List.length_singleton]
        omega

theorem Booked.dispatch (booked : state.Booked) (packet : Transmission) :
    (state.dispatch packet).Booked := by
  rcases booked with ⟨sent, written, heartbeats⟩
  rw [dispatch_eq]
  split
  · exact ⟨sent, written, heartbeats⟩
  · refine ⟨?_, written, Nat.le_succ_of_le heartbeats⟩
    simp only [count, List.length_append, List.length_singleton]
    omega

theorem Booked.countRefusal (booked : state.Booked) (error : ChannelError) :
    (state.countRefusal error).Booked := by
  simp only [State.countRefusal]
  split <;> exact ⟨booked.sent, booked.written, booked.heartbeats⟩

theorem Booked.route (booked : state.Booked) (unhandled : Option Sink) (datagram : Bytes) :
    (state.route unhandled datagram).Booked := by
  simp only [State.route]
  split
  · exact booked.passUnhandled unhandled datagram
  · split
    · exact (booked.put _ _).passUnhandled unhandled datagram
    · split
      · exact (booked.put _ _).dispatch _
      · exact (booked.put _ _).countRefusal _

theorem Booked.foldl {α : Type} {step : State Session → α → State Session}
    (one : ∀ (state : State Session) item, state.Booked → (step state item).Booked)
    (booked : state.Booked) (items : List α) : (items.foldl step state).Booked := by
  induction items generalizing state with
  | nil => exact booked
  | cons item rest hypothesis => exact hypothesis (one state item booked)

theorem Booked.takeRead (booked : state.Booked) (unhandled : Option Sink) (bytes : Bytes) :
    (state.takeRead unhandled bytes).Booked := by
  simp only [State.takeRead]
  split
  · exact ⟨booked.sent, booked.written, booked.heartbeats⟩
  · exact booked.foldl (fun state datagram booked => booked.route unhandled datagram) _

theorem Booked.takeStream (booked : state.Booked) (unhandled : Option Sink) (stopping : Bool)
    (input : Pipe.Input) : (state.takeStream unhandled stopping input).1.Booked := by
  cases stopping with
  | true => exact booked
  | false => exact booked.foldl (fun state read booked => booked.takeRead unhandled read) _

theorem Booked.heartbeatPass (keyed : state.Keyed) (booked : state.Booked) :
    state.heartbeatPass.1.Booked := by
  have visits := visits_heartbeatPass keyed
  constructor
  · rw [visits.counters, visits.sent, List.length_append, ← booked.sent]
    rfl
  · rw [visits.counters, visits.written]
    exact booked.written
  · rw [visits.counters]
    exact Nat.add_le_add_right booked.heartbeats _

end State

theorem Occurrence.booked_next {link : LocalLink} (event : Occurrence)
    (keyed : event.state.Keyed) (booked : event.state.Booked) : (event.next link).Booked := by
  by_cases pumps : event.operation.Pumps
  · rcases event with ⟨state, operation⟩
    cases operation with
    | common operation =>
        cases operation with
        | packet bytes source => exact booked.takePacket link.sink bytes source
        | localRead bytes => exact booked.takeRead link.unhandled bytes
        | localStream stopping input => exact booked.takeStream link.unhandled stopping input
        | _ => exact pumps.elim
    | heartbeatPass => exact booked.heartbeatPass keyed
    | _ => exact pumps.elim
  · exact booked.of_books (SessionOperation.books_apply link event.state pumps)

namespace Chronicle

variable {link : LocalLink} {permitted : SessionOperation → Prop} {origin : Clock}
variable {events : List Occurrence} {state : State Session}

theorem booked (chronicle : Chronicle link permitted origin events state) : state.Booked := by
  induction chronicle with
  | start => exact ⟨rfl, rfl, Nat.le_refl 0⟩
  | @step events state registry earlier same operation allowed hypothesis =>
      let event : Occurrence := ⟨{ state with registry := registry }, operation⟩
      have booked : event.state.Booked := hypothesis.of_books rfl
      exact event.booked_next (earlier.keyed.reordered same) booked

end Chronicle

end TunnelServer
