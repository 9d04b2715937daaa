import TunnelServer.Channel
import TunnelServer.Counters
import TunnelServer.Pipe.Fault
import TunnelServer.Registry

/-!
# The state of a server

All channels that were ever made, the registry that maps some of them, the counters, the clock, and
what has gone out: packets to peers and datagrams to sinks, in order.  Which peers and sinks fail is
part of the state too, since it is a fact of the moment.
-/

namespace TunnelServer

/-- The peers and the sinks that fail at present. -/
structure Outages where
  peers : List SocketAddress := []
  sinks : List Sink := []

/-- A datagram written to a sink. -/
structure Delivery where
  sink : Sink
  bytes : Bytes
  deriving DecidableEq

/-- The state of a server whose channels are of a given type. -/
structure State (C : Type) where
  clock : Clock
  channels : List C := []
  registry : Registry := .empty
  counters : Counters := {}
  sent : List Transmission := []
  written : List Delivery := []
  outages : Outages := {}

namespace State

variable {C : Type}

/-- Makes a channel known; it is not mapped yet. -/
def add (channel : C) (state : State C) : State C × Handle :=
  ({ state with channels := state.channels ++ [channel] }, state.channels.length)

/-- The state with a channel replaced by what has become of it. -/
def put (handle : Handle) (channel : C) (state : State C) : State C :=
  { state with channels := state.channels.set handle channel }

/-- Does something with one channel; a handle of no channel gives the default. -/
def onChannel {α : Type} (handle : Handle) (default : α) (act : C → C × α) (state : State C) :
    State C × α :=
  match state.channels[handle]? with
  | none => (state, default)
  | some channel =>
    let (channel, result) := act channel
    (state.put handle channel, result)

/-- The channel mapped to an identity, with its handle. -/
def find? (identity : Identity) (state : State C) : Option (Handle × C) :=
  match state.registry.lookup identity with
  | none => none
  | some handle => state.channels[handle]?.map (handle, ·)

def count (bump : Counters → Counters) (state : State C) : State C :=
  { state with counters := bump state.counters }

/-- Counts a refused call by its cause. -/
def countRefusal (error : ChannelError) (state : State C) : State C :=
  if error.isStateError then
    state.count fun counters => { counters with stateErrors := counters.stateErrors + 1 }
  else state.count fun counters => { counters with rejected := counters.rejected + 1 }

/-- The fault of a sink that is down. -/
def sinkDown : Pipe.Fault := .device .brokenPipe "sink down"

/-- The fault of a peer that cannot be reached. -/
def peerDown : Pipe.Fault := .device .other "peer down"

/-- Writes a datagram to a sink; one that is down takes nothing. -/
def write (sink : Sink) (datagram : Bytes) (state : State C) : State C × Except Pipe.Fault Unit :=
  if sink ∈ state.outages.sinks then (state, .error sinkDown)
  else ({ state with written := state.written ++ [⟨sink, datagram⟩] }, .ok ())

/-- Sends a packet to its peer; nothing reaches one that is down. -/
def transmit (packet : Transmission) (state : State C) : State C × Except Pipe.Fault Unit :=
  if packet.peer ∈ state.outages.peers then (state, .error peerDown)
  else ({ state with sent := state.sent ++ [packet] }, .ok ())

/-! ## What each of these leaves alone -/

@[simp]
theorem clock_put (handle : Handle) (channel : C) (state : State C) :
    (state.put handle channel).clock = state.clock := rfl

@[simp]
theorem channels_put (handle : Handle) (channel : C) (state : State C) :
    (state.put handle channel).channels = state.channels.set handle channel := rfl

@[simp]
theorem registry_put (handle : Handle) (channel : C) (state : State C) :
    (state.put handle channel).registry = state.registry := rfl

@[simp]
theorem counters_put (handle : Handle) (channel : C) (state : State C) :
    (state.put handle channel).counters = state.counters := rfl

@[simp]
theorem written_put (handle : Handle) (channel : C) (state : State C) :
    (state.put handle channel).written = state.written := rfl

@[simp]
theorem outages_put (handle : Handle) (channel : C) (state : State C) :
    (state.put handle channel).outages = state.outages := rfl

/-- Putting a channel where it is already changes nothing. -/
theorem put_of_getElem? {state : State C} {handle : Handle} {channel : C}
    (there : state.channels[handle]? = some channel) : state.put handle channel = state := by
  obtain ⟨bound, rfl⟩ := List.getElem?_eq_some_iff.mp there
  simp [put, List.set_getElem_self]

/-- Of two channels put in one place the later stays. -/
@[simp]
theorem put_put (handle : Handle) (first second : C) (state : State C) :
    (state.put handle first).put handle second = state.put handle second := by
  simp [put, List.set_set]

theorem put_comm {one other : Handle} (different : one ≠ other) (first second : C)
    (state : State C) :
    (state.put one first).put other second = (state.put other second).put one first := by
  simp [put, List.set_comm _ _ different]

@[simp]
theorem clock_count (bump : Counters → Counters) (state : State C) :
    (state.count bump).clock = state.clock := rfl

@[simp]
theorem channels_count (bump : Counters → Counters) (state : State C) :
    (state.count bump).channels = state.channels := rfl

@[simp]
theorem registry_count (bump : Counters → Counters) (state : State C) :
    (state.count bump).registry = state.registry := rfl

@[simp]
theorem counters_count (bump : Counters → Counters) (state : State C) :
    (state.count bump).counters = bump state.counters := rfl

@[simp]
theorem find?_count (identity : Identity) (bump : Counters → Counters) (state : State C) :
    (state.count bump).find? identity = state.find? identity := rfl

/-- Counting and putting do not get in each other's way. -/
theorem count_put (bump : Counters → Counters) (handle : Handle) (channel : C)
    (state : State C) :
    (state.put handle channel).count bump = (state.count bump).put handle channel := rfl

@[simp]
theorem written_count (bump : Counters → Counters) (state : State C) :
    (state.count bump).written = state.written := rfl

@[simp]
theorem outages_count (bump : Counters → Counters) (state : State C) :
    (state.count bump).outages = state.outages := rfl

end State

end TunnelServer
