import Mathlib.Algebra.Group.Defs
import TunnelServer.Proofs.Delivery

/-!
# What becomes of a packet

A packet from a peer has one of five fates.  Its header is not in order, or nobody is mapped to the
identity that it claims, or the session that is mapped to it cannot use the packet, or takes it for a
sign of life, or finds a datagram in it.  The fate tells what is counted and what is written; which
session hears of the packet depends on the identity that it claims alone.
-/

namespace TunnelServer

namespace Counters

instance : Zero Counters := ⟨{}⟩

instance : Add Counters where
  add one other := {
    received := one.received + other.received
    precheckDrops := one.precheckDrops + other.precheckDrops
    unknownTunnelDrops := one.unknownTunnelDrops + other.unknownTunnelDrops
    delivered := one.delivered + other.delivered
    framingErrors := one.framingErrors + other.framingErrors
    noRouteDrops := one.noRouteDrops + other.noRouteDrops
    passedUnhandled := one.passedUnhandled + other.passedUnhandled
    sent := one.sent + other.sent
    heartbeats := one.heartbeats + other.heartbeats
    sendErrors := one.sendErrors + other.sendErrors
    sinkErrors := one.sinkErrors + other.sinkErrors
    stateErrors := one.stateErrors + other.stateErrors
    rejected := one.rejected + other.rejected
    timeouts := one.timeouts + other.timeouts }

theorem add_def (one other : Counters) : one + other =
    ⟨one.received + other.received, one.precheckDrops + other.precheckDrops,
      one.unknownTunnelDrops + other.unknownTunnelDrops, one.delivered + other.delivered,
      one.framingErrors + other.framingErrors, one.noRouteDrops + other.noRouteDrops,
      one.passedUnhandled + other.passedUnhandled, one.sent + other.sent,
      one.heartbeats + other.heartbeats, one.sendErrors + other.sendErrors,
      one.sinkErrors + other.sinkErrors, one.stateErrors + other.stateErrors,
      one.rejected + other.rejected, one.timeouts + other.timeouts⟩ := rfl

theorem zero_def : (0 : Counters) = {} := rfl

/-- Counts of different things can be put together in any order. -/
instance : AddCommMonoid Counters where
  add_assoc one two three := by simp only [add_def, Nat.add_assoc]
  zero_add counters := by simp only [add_def, zero_def, Nat.zero_add]
  add_zero counters := by simp only [add_def, zero_def, Nat.add_zero]
  add_comm one other := by simp only [add_def, Nat.add_comm]
  nsmul := nsmulRec

end Counters

/-- What becomes of a packet from a peer. -/
inductive Arrival where
  /-- The header is not in order. -/
  | malformed
  /-- No session is mapped to the identity that it claims. -/
  | unclaimed
  /-- The session that is mapped to that identity cannot use it. -/
  | invalid
  | alive
  | carried (delivery : Delivery)
  deriving DecidableEq

namespace Arrival

/-- What is counted for a packet. -/
def tally (outages : Outages) : Arrival → Counters
  | malformed => { received := 1, precheckDrops := 1 }
  | unclaimed => { received := 1, unknownTunnelDrops := 1 }
  | invalid => { received := 1 }
  | alive => { received := 1 }
  | carried delivery =>
    if delivery.sink ∈ outages.sinks then { received := 1, sinkErrors := 1 }
    else { received := 1, delivered := 1 }

def writes (outages : Outages) : Arrival → List Delivery
  | carried delivery => if delivery.sink ∈ outages.sinks then [] else [delivery]
  | _ => []

end Arrival

namespace Session

/-- What becomes of a packet that claims to belong to a session. -/
def arrival (clock : Clock) (localSink : Sink) (packet : Bytes) (source : SocketAddress)
    (session : Session) : Arrival :=
  match session.profile.judge clock.epoch packet with
  | .invalid => .invalid
  | .alive => .alive
  | .carries payload => .carried ⟨session.sinkFor clock localSink source, payload⟩

/-- What becomes of a session that a packet claims to belong to. -/
def taking (clock : Clock) (localSink : Sink) (packet : Bytes) (source : SocketAddress)
    (session : Session) : Session :=
  ((session.followed clock localSink source).receive clock packet).1

end Session

namespace State

/-- The session that is mapped to the identity that a packet claims, with its handle. -/
def taker? (packet : Bytes) (state : State Session) : Option (Handle × Session) :=
  Packet.claimedSender? packet state.clock.epoch >>= state.find?

def arrival (localSink : Sink) (packet : Bytes) (source : SocketAddress) (state : State Session) :
    Arrival :=
  match Packet.claimedSender? packet state.clock.epoch with
  | none => .malformed
  | some sender =>
    match state.find? sender with
    | none => .unclaimed
    | some (_, session) => session.arrival state.clock localSink packet source

/-- The sessions once the one that a packet claims to belong to has taken it. -/
def channelsTaking (localSink : Sink) (packet : Bytes) (source : SocketAddress)
    (state : State Session) : List Session :=
  match state.taker? packet with
  | none => state.channels
  | some (handle, session) =>
    state.channels.set handle (session.taking state.clock localSink packet source)

end State

/-! ## One session -/

namespace Session

variable {packet : Bytes}

/-- A session that has a link counts the packets that it cannot use and no others. -/
theorem invalidCount_receive_of_linked {session : Session} {link : Link} (clock : Clock)
    (linked : session.link = some link) (enough : Packet.headerLength ≤ packet.length) :
    (session.receive clock packet).1.invalidCount =
      session.invalidCount + if session.profile.judge clock.epoch packet = .invalid then 1 else 0 := by
  simp only [receive, linked, Nat.not_lt.mpr enough, if_false]
  split <;> rename_i judged <;> simp [judged, countInvalid]

theorem invalidCount_followed (clock : Clock) (localSink : Sink) (source : SocketAddress)
    (session : Session) :
    (session.followed clock localSink source).invalidCount = session.invalidCount := by
  simp only [followed]
  split <;> rfl

theorem arrival_eq_invalid_iff {clock : Clock} {localSink : Sink} {source : SocketAddress}
    {session : Session} :
    session.arrival clock localSink packet source = .invalid ↔
      session.profile.judge clock.epoch packet = .invalid := by
  simp only [arrival]
  cases session.profile.judge clock.epoch packet <;> simp

theorem invalidCount_taking (clock : Clock) (enough : Packet.headerLength ≤ packet.length)
    (localSink : Sink) (source : SocketAddress) (session : Session) :
    (session.taking clock localSink packet source).invalidCount =
      session.invalidCount +
        if session.arrival clock localSink packet source = .invalid then 1 else 0 := by
  have linked := session.link_followed clock localSink source
  rw [taking, invalidCount_receive_of_linked clock linked enough, profile_followed,
    invalidCount_followed]
  simp only [arrival_eq_invalid_iff]

end Session

namespace State

variable {state before after : State Session} {localSink : Sink} {packet : Bytes}
variable {source : SocketAddress} {handle : Handle} {session : Session} {sender : Identity}

/-! ## The server -/

theorem taker?_eq_some_iff :
    state.taker? packet = some (handle, session) ↔
      ∃ sender, Packet.claimedSender? packet state.clock.epoch = some sender ∧
        state.registry.lookup sender = some handle ∧ state.channels[handle]? = some session := by
  simp only [taker?, Option.bind_eq_bind, Option.bind_eq_some_iff, find?_eq_some_iff]

theorem arrival_of_taker? (taker : state.taker? packet = some (handle, session)) :
    state.arrival localSink packet source =
      session.arrival state.clock localSink packet source := by
  rcases Option.bind_eq_some_iff.mp taker with ⟨sender, claimed, found⟩
  simp only [arrival, claimed, found]

theorem arrival_of_untaken (untaken : state.taker? packet = none) (localSink : Sink)
    (source : SocketAddress) :
    state.arrival localSink packet source = .malformed ∨
      state.arrival localSink packet source = .unclaimed := by
  simp only [taker?] at untaken
  cases claimed : Packet.claimedSender? packet state.clock.epoch with
  | none => simp only [arrival, claimed, true_or]
  | some sender =>
      rw [claimed, Option.bind_eq_bind, Option.bind_some] at untaken
      simp only [arrival, claimed, untaken, or_true]

/-- All that a packet does to a server: the session that it claims to belong to takes it, it is counted
by what becomes of it, and the datagram that it brings is written. -/
theorem takePacket_eq (localSink : Sink) (packet : Bytes) (source : SocketAddress)
    (state : State Session) :
    state.takePacket localSink packet source =
      { state with
        channels := state.channelsTaking localSink packet source
        counters := state.counters +
          (state.arrival localSink packet source).tally state.outages
        written := state.written ++
          (state.arrival localSink packet source).writes state.outages } := by
  cases claimed : Packet.claimedSender? packet state.clock.epoch with
  | none =>
      simp only [takePacket, clock_count, claimed, arrival, channelsTaking, taker?,
        Option.bind_eq_bind, Option.bind_none, Arrival.tally, Arrival.writes, List.append_nil]
      rfl
  | some sender =>
      cases found : state.find? sender with
      | none =>
          simp only [takePacket, clock_count, find?_count, claimed, found, arrival, channelsTaking,
            taker?, Option.bind_eq_bind, Option.bind_some, Arrival.tally, Arrival.writes,
            List.append_nil]
          rfl
      | some taker =>
          rcases taker with ⟨handle, session⟩
          rw [takePacket_of_find? claimed found]
          simp only [arrival, channelsTaking, taker?, claimed, found, Option.bind_eq_bind,
            Option.bind_some, Session.reaction, Session.arrival, Session.taking]
          cases session.profile.judge state.clock.epoch packet with
          | invalid =>
              simp only [perform, Arrival.tally, Arrival.writes, List.append_nil]
              rfl
          | alive =>
              simp only [perform, Arrival.tally, Arrival.writes, List.append_nil]
              rfl
          | carries payload =>
              simp only [perform_deliver, outages_put, outages_count, Arrival.tally, Arrival.writes]
              by_cases down : session.sinkFor state.clock localSink source ∈ state.outages.sinks
              · simp only [down, if_true, List.append_nil]
                rfl
              · simp only [down, if_false]
                rfl

end State

end TunnelServer
