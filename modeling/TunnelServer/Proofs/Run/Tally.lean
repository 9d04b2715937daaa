import Mathlib.Algebra.BigOperators.Group.List.Basic
import Mathlib.Algebra.GroupWithZero.Nat
import TunnelServer.Proofs.Run.Arrival
import TunnelServer.Proofs.Run.Packing

/-!
# What a run counts

Each event of a run adds to the counters what becomes of the packet that arrives in it, of the reads
that it takes and of the heartbeats that it finds due, and nothing else.  What becomes of the datagrams
of a read can be told from the state that the read finds, as dealing with one of them changes nothing
that matters to the others.  So the counters of a server are the sum of what its events add.
-/

namespace TunnelServer

/-- What becomes of a local datagram. -/
inductive Departure where
  /-- It is larger than the tunnel of its destination lets through. -/
  | oversized
  | packed (packet : Transmission)
  /-- No tunnel that is connected is mapped to its destination. -/
  | unserved
  deriving DecidableEq

/-- What is counted for a local datagram. -/
def Departure.tally (unhandled : Option Sink) (outages : Outages) : Departure → Counters
  | oversized => { rejected := 1 }
  | packed packet => if packet.peer ∈ outages.peers then { sendErrors := 1 } else { sent := 1 }
  | unserved =>
    match unhandled with
    | none => { noRouteDrops := 1 }
    | some sink => if sink ∈ outages.sinks then { sinkErrors := 1 } else { passedUnhandled := 1 }

/-- What becomes of a datagram for the tunnel of a session. -/
def Session.departure (clock : Clock) (datagram : Bytes) (session : Session) : Departure :=
  match session.link with
  | none => .unserved
  | some link =>
    if session.hasExpired clock then .unserved
    else if session.profile.mtu < datagram.length then .oversized
    else .packed ⟨link.peer, Packet.encode (.forward session.identity clock.epoch)
      session.profile.key datagram⟩

namespace State

def departure (datagram : Bytes) (state : State Session) : Departure :=
  match Datagram.destination? datagram >>= state.find? with
  | none => .unserved
  | some (_, session) => session.departure state.clock datagram

def readTally (unhandled : Option Sink) (bytes : Bytes) (state : State Session) : Counters :=
  match Datagram.split bytes with
  | .error _ => { framingErrors := 1 }
  | .ok datagrams =>
    (datagrams.map fun datagram => (state.departure datagram).tally unhandled state.outages).sum

/-- The books of a server: its counters, and what it has sent and written. -/
def books (state : State Session) : Counters × List Transmission × List Delivery :=
  (state.counters, state.sent, state.written)

end State

/-- Whether an operation pumps packets or datagrams through a server. -/
def SessionOperation.Pumps : SessionOperation → Prop
  | .common (.packet _ _) => True
  | .common (.localRead _) => True
  | .common (.localStream _ _) => True
  | .heartbeatPass => True
  | _ => False

namespace Occurrence

/-- The packet that comes from a peer in an event, with its source. -/
def received? (event : Occurrence) : Option (Bytes × SocketAddress) :=
  match event.operation with
  | .common (.packet bytes source) => some (bytes, source)
  | _ => none

/-- The reads that an event takes from the local network, in order. -/
def reads (event : Occurrence) : List Bytes :=
  match event.operation with
  | .common (.localRead bytes) => [bytes]
  | .common (.localStream stopping input) =>
    if stopping then [] else (Pipe.frames State.readBuffer input).1
  | _ => []

def tally (link : LocalLink) (event : Occurrence) : Counters :=
  match event.operation with
  | .common (.packet bytes source) =>
    (event.state.arrival link.sink bytes source).tally event.state.outages
  | .heartbeatPass =>
    Counters.passedOver event.state.outages (event.state.findings event.state.registry.handles) 0
  | _ => (event.reads.map fun bytes => event.state.readTally link.unhandled bytes).sum

end Occurrence

/-- What has happened to a server since it was started with a clock, the latest event first, if nothing
but permitted operations were performed.  Each operation may find the registry's entries in any
order. -/
inductive Chronicle (link : LocalLink) (permitted : SessionOperation → Prop) (origin : Clock) :
    List Occurrence → State Session → Prop where
  | start : Chronicle link permitted origin [] { clock := origin }
  | step {events : List Occurrence} {state : State Session} {registry : Registry}
      (earlier : Chronicle link permitted origin events state)
      (same : registry.entries.Perm state.registry.entries) (operation : SessionOperation)
      (allowed : permitted operation) :
      Chronicle link permitted origin (⟨{ state with registry := registry }, operation⟩ :: events)
        (operation.apply link { state with registry := registry }).1

/-- What has happened once operations are performed in order, each finding the registry as it was
left. -/
def SessionOperation.occurrences (link : LocalLink) :
    List Occurrence → State Session → List SessionOperation → List Occurrence
  | events, _, [] => events
  | events, state, operation :: rest =>
    occurrences link (⟨state, operation⟩ :: events) (operation.apply link state).1 rest

namespace Counters

/-- The packets that have come from peers, as a measure of counters. -/
def arrivals : Counters →+ ℕ where
  toFun := received
  map_zero' := rfl
  map_add' _ _ := rfl

def unframed : Counters →+ ℕ where
  toFun := framingErrors
  map_zero' := rfl
  map_add' _ _ := rfl

/-- The calls that are refused for what is handed in. -/
def rejections : Counters →+ ℕ where
  toFun := rejected
  map_zero' := rfl
  map_add' _ _ := rfl

/-- The calls that are refused because a session is, or is not, connected. -/
def missteps : Counters →+ ℕ where
  toFun := stateErrors
  map_zero' := rfl
  map_add' _ _ := rfl

/-- All outcomes of packets and datagrams that a server counts. -/
def outcomes : Counters →+ ℕ where
  toFun counters := counters.precheckDrops + counters.unknownTunnelDrops + counters.delivered +
    counters.sinkErrors + counters.sent + counters.sendErrors + counters.noRouteDrops +
    counters.passedUnhandled + counters.rejected + counters.stateErrors
  map_zero' := rfl
  map_add' one other := by
    simp only [add_def]
    omega

theorem outcomes_eq (counters : Counters) :
    outcomes counters = counters.precheckDrops + counters.unknownTunnelDrops + counters.delivered +
      counters.sinkErrors + counters.sent + counters.sendErrors + counters.noRouteDrops +
      counters.passedUnhandled + counters.rejected + counters.stateErrors := rfl

end Counters

/-- What the measures make of the count of a packet. -/
structure Arrival.Measured (arrival : Arrival) (counted : Counters) : Prop where
  arrivals : Counters.arrivals counted = 1
  unframed : Counters.unframed counted = 0
  rejections : Counters.rejections counted = 0
  missteps : Counters.missteps counted = 0
  outcomes : Counters.outcomes counted +
    ((if arrival = .invalid then 1 else 0) + (if arrival = .alive then 1 else 0)) = 1

/-- What the measures make of the count of a datagram. -/
structure Departure.Measured (departure : Departure) (counted : Counters) : Prop where
  arrivals : Counters.arrivals counted = 0
  unframed : Counters.unframed counted = 0
  rejections : Counters.rejections counted = if departure = .oversized then 1 else 0
  missteps : Counters.missteps counted = 0
  outcomes : Counters.outcomes counted = 1

/-! ## Measures -/

theorem Arrival.measured_tally (outages : Outages) (arrival : Arrival) :
    arrival.Measured (arrival.tally outages) := by
  cases arrival with
  | carried delivery =>
      simp only [tally]
      split <;> exact ⟨rfl, rfl, rfl, rfl, rfl⟩
  | _ => exact ⟨rfl, rfl, rfl, rfl, rfl⟩

theorem Departure.measured_tally (unhandled : Option Sink) (outages : Outages)
    (departure : Departure) : departure.Measured (departure.tally unhandled outages) := by
  cases departure with
  | oversized => exact ⟨rfl, rfl, rfl, rfl, rfl⟩
  | packed packet =>
      simp only [tally]
      split <;> exact ⟨rfl, rfl, rfl, rfl, rfl⟩
  | unserved =>
      cases unhandled with
      | none => exact ⟨rfl, rfl, rfl, rfl, rfl⟩
      | some sink =>
          simp only [tally]
          split <;> exact ⟨rfl, rfl, rfl, rfl, rfl⟩

/-! ## One datagram -/

theorem Session.departure_of_rests {clock : Clock} {session rested : Session}
    (rests : session.Rests clock rested) (datagram : Bytes) :
    rested.departure clock datagram = session.departure clock datagram := by
  have live := session.isLive_eq_not_hasExpired clock
  rcases rests.link with kept | ⟨gone, lost⟩
  · have expired : rested.hasExpired clock = session.hasExpired clock := by
      simp only [hasExpired, kept, rests.profile, rests.heard]
    simp only [departure, kept, expired, rests.profile, identity]
  · simp only [departure, lost]
    split
    · rfl
    · rename_i link linked
      simp only [linked, gone, Option.isSome_some, Bool.true_and, Bool.false_eq,
        Bool.not_eq_false'] at live
      simp only [live, if_true]

namespace State

variable {state before after : State Session} {unhandled : Option Sink} {datagram : Bytes}

theorem departure_of_rests (rests : before.Rests after) (datagram : Bytes) :
    after.departure datagram = before.departure datagram := by
  have profiles := rests.sameTunnels.profiles
  simp only [departure]
  cases Datagram.destination? datagram with
  | none => rfl
  | some identity =>
      simp only [Option.bind_eq_bind, Option.bind_some, find?, rests.registry]
      cases mapped : before.registry.lookup identity with
      | none => rfl
      | some handle =>
          cases known : before.channels[handle]? with
          | none => simp only [unknown_of_profiles profiles known, known, Option.map_none]
          | some session =>
              rcases rests.sessions handle session known with ⟨rested, found, rest⟩
              simp only [found, known, Option.map_some, rests.clock]
              exact Session.departure_of_rests rest datagram

theorem counters_passUnhandled (unhandled : Option Sink) (datagram : Bytes)
    (state : State Session) :
    (state.passUnhandled unhandled datagram).counters =
      state.counters + Departure.unserved.tally unhandled state.outages := by
  cases unhandled with
  | none => rfl
  | some sink =>
      rw [passUnhandled_some]
      by_cases down : sink ∈ state.outages.sinks
      · simp only [Departure.tally, down, if_true]
        rfl
      · simp only [Departure.tally, down, if_false]
        rfl

theorem counters_dispatch (packet : Transmission) (state : State Session) :
    (state.dispatch packet).counters =
      state.counters + (Departure.packed packet).tally unhandled state.outages := by
  rw [dispatch_eq]
  by_cases down : packet.peer ∈ state.outages.peers
  · simp only [Departure.tally, down, if_true]
    rfl
  · simp only [Departure.tally, down, if_false]
    rfl

theorem counters_route (unhandled : Option Sink) (datagram : Bytes) (state : State Session) :
    (state.route unhandled datagram).counters =
      state.counters + (state.departure datagram).tally unhandled state.outages := by
  simp only [route, departure]
  cases Datagram.destination? datagram >>= state.find? with
  | none => exact counters_passUnhandled unhandled datagram state
  | some taker =>
      rcases taker with ⟨handle, session⟩
      simp only [Channel.checkLive, Channel.send]
      cases linked : session.link with
      | none =>
          have gone : session.isLive state.clock = false := by
            simp only [Session.isLive, linked, Option.isSome_none, Bool.false_and]
          simp only [Session.checkLive_of_not_isLive gone, Session.departure, linked]
          exact counters_passUnhandled unhandled datagram _
      | some link =>
          have live := session.isLive_eq_not_hasExpired state.clock
          simp only [linked, Option.isSome_some, Bool.true_and] at live
          cases expired : session.hasExpired state.clock with
          | true =>
              rw [expired] at live
              simp only [Session.checkLive_of_not_isLive live, Session.departure, linked, expired,
                if_true]
              exact counters_passUnhandled unhandled datagram _
          | false =>
              rw [expired] at live
              simp only [Session.checkLive_of_isLive live, Session.departure, linked, expired,
                Bool.false_eq_true, if_false]
              by_cases large : session.profile.mtu < datagram.length
              · simp only [Session.send_of_large _ large, large, if_true]
                rfl
              · simp only [Session.send_of_fits _ linked (Nat.not_lt.mp large), large, if_false]
                exact counters_dispatch _ _

/-! ## Rows of datagrams and of reads -/

/-- If dealing with one item changes nothing that matters to the others, what is counted for all of them
can be told beforehand. -/
theorem counters_foldl {α : Type} {step : State Session → α → State Session}
    (tally : α → State Session → Counters)
    (rests : ∀ (state : State Session) item, state.Rests (step state item))
    (outages : ∀ state item, (step state item).outages = state.outages)
    (one : ∀ state item, (step state item).counters = state.counters + tally item state)
    (same : ∀ (before after : State Session) item, before.Rests after →
      after.outages = before.outages → tally item after = tally item before)
    (items : List α) (state : State Session) :
    (items.foldl step state).counters =
      state.counters + (items.map fun item => tally item state).sum := by
  induction items generalizing state with
  | nil => exact (add_zero state.counters).symm
  | cons item rest hypothesis =>
      -- By the hypothesis the rest is counted in the state after the first item, which matters to none.
      have untouched : (rest.map fun later => tally later (step state item)) =
          rest.map fun later => tally later state := by
        apply List.map_congr_left
        intro later _
        exact same state (step state item) later (rests state item) (outages state item)
      rw [List.foldl_cons, hypothesis, one, untouched, List.map_cons, List.sum_cons, add_assoc]

theorem outages_route (unhandled : Option Sink) (datagram : Bytes) (state : State Session) :
    (state.route unhandled datagram).outages = state.outages :=
  congrArg Prod.fst (standing_route unhandled datagram state)

theorem outages_takeRead (unhandled : Option Sink) (bytes : Bytes) (state : State Session) :
    (state.takeRead unhandled bytes).outages = state.outages := by
  simp only [takeRead]
  split
  · rfl
  · exact view_foldl State.outages _ (fun state datagram => outages_route unhandled datagram state)
      _ state

theorem counters_takeRead (unhandled : Option Sink) (bytes : Bytes) (state : State Session) :
    (state.takeRead unhandled bytes).counters =
      state.counters + state.readTally unhandled bytes := by
  simp only [takeRead, readTally]
  cases Datagram.split bytes with
  | error error => rfl
  | ok datagrams =>
      apply counters_foldl fun datagram state =>
        (state.departure datagram).tally unhandled state.outages
      · exact fun state datagram => rests_route unhandled datagram state
      · exact fun state datagram => outages_route unhandled datagram state
      · exact fun state datagram => counters_route unhandled datagram state
      · intro before after datagram rests outages
        rw [departure_of_rests rests, outages]

theorem readTally_of_rests (rests : before.Rests after) (outages : after.outages = before.outages)
    (unhandled : Option Sink) (bytes : Bytes) :
    after.readTally unhandled bytes = before.readTally unhandled bytes := by
  simp only [readTally, departure_of_rests rests, outages]

theorem counters_takeReads (unhandled : Option Sink) (reads : List Bytes) (state : State Session) :
    (reads.foldl (fun state read => state.takeRead unhandled read) state).counters =
      state.counters + (reads.map fun bytes => state.readTally unhandled bytes).sum := by
  apply counters_foldl fun bytes state => state.readTally unhandled bytes
  · exact fun state bytes => rests_takeRead unhandled bytes state
  · exact fun state bytes => outages_takeRead unhandled bytes state
  · exact fun state bytes => counters_takeRead unhandled bytes state
  · exact fun before after bytes rests outages => readTally_of_rests rests outages unhandled bytes

theorem counters_takeStream (unhandled : Option Sink) (stopping : Bool) (input : Pipe.Input)
    (state : State Session) :
    (state.takeStream unhandled stopping input).1.counters = state.counters +
      ((if stopping then [] else (Pipe.frames readBuffer input).1).map fun bytes =>
        state.readTally unhandled bytes).sum := by
  cases stopping with
  | true => exact (add_zero state.counters).symm
  | false => exact counters_takeReads unhandled _ state

/-! ## Everything else -/

theorem counters_heartbeatPass (keyed : state.Keyed) :
    state.heartbeatPass.1.counters = state.counters +
      Counters.passedOver state.outages (state.findings state.registry.handles) 0 := by
  rw [(visits_heartbeatPass keyed).counters]
  simp only [Counters.passedOver, Counters.add_def, Counters.zero_def, Nat.zero_add, Nat.add_zero]

theorem books_of_aside (same : after.aside = before.aside) : after.books = before.books := by
  have books : after.aside.books = before.aside.books := congrArg State.books same
  exact books

theorem books_of_onlySessions (only : before.OnlySessions after) : after.books = before.books := by
  rw [OnlySessions] at only
  rw [only]
  rfl

theorem books_onChannel {α : Type} (handle : Handle) (default : α) (act : Session → Session × α)
    (state : State Session) : (state.onChannel handle default act).1.books = state.books :=
  books_of_onlySessions (onlySessions_onChannel handle default act state)

theorem books_installOrReplace (handle : Handle) (sink : Sink) (peer : SocketAddress)
    (state : State Session) :
    (state.installOrReplace handle sink peer).1.books = state.books := by
  rw [fst_installOrReplace]
  exact (books_onChannel handle _ _ _).trans (books_of_aside (aside_install handle state))

theorem books_reload (ipv4Pop : Ipv4Address)
    (loaded : Except DirectoryError (List TunnelRecord)) (state : State Session) :
    (state.reload ipv4Pop loaded).1.books = state.books := by
  cases loaded with
  | error error => rfl
  | ok records => exact books_of_aside (aside_replaceAll _ _)

end State

/-- Only the pumps and the heartbeat passes count anything or let anything out. -/
theorem SessionOperation.books_apply {operation : SessionOperation} (link : LocalLink)
    (state : State Session) (quiet : ¬operation.Pumps) :
    (operation.apply link state).1.books = state.books := by
  open State in
  cases operation with
  | common operation =>
      cases operation with
      | advance nanos => rfl
      | outages present => rfl
      | connect handle sink peer => exact books_onChannel handle _ _ state
      | reconnect handle sink peer => exact books_onChannel handle _ _ state
      | close handle => exact books_of_aside (aside_close handle state)
      | checkLive handle => exact books_onChannel handle _ _ state
      | receive handle packet => exact books_onChannel handle _ _ state
      | send handle datagram =>
          simp only [apply, Operation.apply]
          split <;> rfl
      | install handle => exact books_of_aside (aside_install handle state)
      | installOrReplace handle sink peer => exact books_installOrReplace handle sink peer state
      | remove identity => exact books_of_aside (aside_remove identity state)
      | replaceAll handles => exact books_of_aside (aside_replaceAll handles state)
      | connectedCount => exact books_of_onlySessions (onlySessions_connectedCount state)
      | removeAll => exact books_of_aside (aside_removeEach _ state)
      | _ => exact absurd trivial quiet
  | create record =>
      simp only [apply]
      split <;> rfl
  | beat handle =>
      simp only [apply]
      split <;> rfl
  | heartbeatPass => exact absurd trivial quiet
  | survey => exact books_of_onlySessions (onlySessions_survey state)
  | reload ipv4Pop loaded => exact books_reload ipv4Pop loaded state

/-! ## Events -/

theorem sum_map_indicator {α : Type} (property : α → Prop) [DecidablePred property]
    (items : List α) :
    (items.map fun item => if property item then 1 else 0).sum =
      items.countP fun item => property item := by
  induction items with
  | nil => rfl
  | cons item rest hypothesis =>
      rw [List.map_cons, List.sum_cons, hypothesis, List.countP_cons, Nat.add_comm]
      simp only [decide_eq_true_eq]

namespace Occurrence

open State

variable {link : LocalLink} {event : Occurrence}

theorem datagrams_eq (event : Occurrence) :
    event.datagrams = event.reads.flatMap Datagram.rowOf := by
  rcases event with ⟨state, operation⟩
  cases operation with
  | common operation =>
      cases operation with
      | localRead bytes => exact (List.append_nil _).symm
      | localStream stopping input => cases stopping <;> rfl
      | _ => rfl
  | _ => rfl

/-- Whatever does not count reads that are no rows is counted for the datagrams of an event one by
one. -/
theorem sum_reads (measure : Counters →+ ℕ) (framed : measure { framingErrors := 1 } = 0)
    (unhandled : Option Sink) (event : Occurrence) :
    measure (event.reads.map fun bytes => event.state.readTally unhandled bytes).sum =
      (event.datagrams.map fun datagram => measure
        ((event.state.departure datagram).tally unhandled event.state.outages)).sum := by
  rw [datagrams_eq]
  induction event.reads with
  | nil => exact map_zero measure
  | cons bytes rest hypothesis =>
      rw [List.map_cons, List.sum_cons, map_add, hypothesis, List.flatMap_cons, List.map_append,
        List.sum_append, readTally, Datagram.rowOf]
      cases Datagram.split bytes with
      | error error => simp only [framed, List.map_nil, List.sum_nil]
      | ok datagrams => simp only [map_list_sum, List.map_map, Function.comp_def]

theorem sum_reads_eq_zero (measure : Counters →+ ℕ) (framed : measure { framingErrors := 1 } = 0)
    (unhandled : Option Sink) (event : Occurrence)
    (none : ∀ departure : Departure,
      measure (departure.tally unhandled event.state.outages) = 0) :
    measure (event.reads.map fun bytes => event.state.readTally unhandled bytes).sum = 0 := by
  rw [sum_reads measure framed]
  apply List.sum_eq_zero
  intro counted member
  rcases List.mem_map.mp member with ⟨datagram, -, rfl⟩
  exact none _

theorem tally_of_not_pumps (quiet : ¬event.operation.Pumps) : event.tally link = 0 := by
  rcases event with ⟨state, operation⟩
  cases operation with
  | common operation => cases operation <;> first | rfl | exact absurd trivial quiet
  | heartbeatPass => exact absurd trivial quiet
  | _ => rfl

/-- An event adds to the counters what is counted in it. -/
theorem counters_next (event : Occurrence) (keyed : event.state.Keyed) :
    (event.next link).counters = event.state.counters + event.tally link := by
  by_cases pumps : event.operation.Pumps
  · rcases event with ⟨state, operation⟩
    cases operation with
    | common operation =>
        cases operation with
        | packet bytes source =>
            exact congrArg State.counters (takePacket_eq link.sink bytes source state)
        | localRead bytes =>
            refine (counters_takeRead link.unhandled bytes state).trans ?_
            simp only [tally, reads, List.map_cons, List.map_nil, List.sum_cons, List.sum_nil,
              add_zero]
        | localStream stopping input => exact counters_takeStream link.unhandled stopping input state
        | _ => exact pumps.elim
    | heartbeatPass => exact counters_heartbeatPass keyed
    | _ => exact pumps.elim
  · have books := SessionOperation.books_apply link event.state pumps
    rw [tally_of_not_pumps pumps, add_zero]
    exact congrArg Prod.fst books

end Occurrence

/-! ## Runs -/

namespace Chronicle

variable {link : LocalLink} {permitted : SessionOperation → Prop} {origin : Clock}
variable {events : List Occurrence} {state : State Session} {event : Occurrence}

theorem reachable (chronicle : Chronicle link permitted origin events state) :
    Reachable link permitted state := by
  refine ⟨origin, ?_⟩
  induction chronicle with
  | start => exact .start
  | step _ same operation allowed hypothesis =>
      exact (hypothesis.reordered same).step operation allowed

theorem keyed (chronicle : Chronicle link permitted origin events state) : state.Keyed :=
  chronicle.reachable.keyed

theorem run (chronicle : Chronicle link permitted origin events state)
    (operations : List SessionOperation) (allowed : ∀ operation ∈ operations, permitted operation) :
    Chronicle link permitted origin (SessionOperation.occurrences link events state operations)
      (SessionOperation.run link state operations).1 := by
  induction operations generalizing events state with
  | nil => exact chronicle
  | cons operation rest hypothesis =>
      refine hypothesis (chronicle.step (.refl _) operation (allowed operation (by simp))) ?_
      intro other member
      exact allowed other (by simp [member])

/-- The counters of a server are the sum of what its events add. -/
theorem counters_eq (chronicle : Chronicle link permitted origin events state) :
    state.counters = (events.map fun event => event.tally link).sum := by
  induction chronicle with
  | start => rfl
  | @step events state registry earlier same operation allowed hypothesis =>
      let event : Occurrence := ⟨{ state with registry := registry }, operation⟩
      rw [List.map_cons, List.sum_cons, ← hypothesis, add_comm]
      exact event.counters_next (earlier.keyed.reordered same)

theorem measure_eq (chronicle : Chronicle link permitted origin events state)
    (measure : Counters →+ ℕ) :
    measure state.counters = (events.map fun event => measure (event.tally link)).sum := by
  rw [chronicle.counters_eq, map_list_sum, List.map_map]
  rfl

end Chronicle

end TunnelServer
