import TunnelServer.Packet.Limits
import TunnelServer.Pipe.Input
import TunnelServer.State

/-!
# From the local network to peers

A local read is a row of datagrams, each of which goes to the connected tunnel that its destination
names.  Datagrams for no such tunnel are passed on to a sink for unhandled ones, or dropped.
-/

namespace TunnelServer.State

variable {C : Type} [Channel C]

/-- Deals with a datagram for no connected tunnel. -/
def passUnhandled (unhandled : Option Sink) (datagram : Bytes) (state : State C) : State C :=
  match unhandled with
  | none => state.count fun counters => { counters with noRouteDrops := counters.noRouteDrops + 1 }
  | some sink =>
    match state.write sink datagram with
    | (state, .ok ()) =>
      state.count fun counters => { counters with passedUnhandled := counters.passedUnhandled + 1 }
    | (state, .error _) =>
      state.count fun counters => { counters with sinkErrors := counters.sinkErrors + 1 }

omit [Channel C] in
/-- A sink for unhandled datagrams takes them while it is up. -/
theorem passUnhandled_some (sink : Sink) (datagram : Bytes) (state : State C) :
    state.passUnhandled (some sink) datagram =
      if sink ∈ state.outages.sinks then
        state.count fun counters => { counters with sinkErrors := counters.sinkErrors + 1 }
      else
        count (fun counters => { counters with passedUnhandled := counters.passedUnhandled + 1 })
          { state with written := state.written ++ [⟨sink, datagram⟩] } := by
  unfold passUnhandled write
  by_cases down : sink ∈ state.outages.sinks <;> simp [down]

/-- Sends a packet and counts it. -/
def dispatch (packet : Transmission) (state : State C) : State C :=
  match state.transmit packet with
  | (state, .ok ()) => state.count fun counters => { counters with sent := counters.sent + 1 }
  | (state, .error _) =>
    state.count fun counters => { counters with sendErrors := counters.sendErrors + 1 }

omit [Channel C] in
/-- A packet reaches its peer unless that is down. -/
theorem dispatch_eq (packet : Transmission) (state : State C) :
    state.dispatch packet =
      if packet.peer ∈ state.outages.peers then
        state.count fun counters => { counters with sendErrors := counters.sendErrors + 1 }
      else
        count (fun counters => { counters with sent := counters.sent + 1 })
          { state with sent := state.sent ++ [packet] } := by
  simp only [dispatch, transmit]
  by_cases down : packet.peer ∈ state.outages.peers <;> simp [down]

/-- Sends one datagram through the tunnel of its destination. -/
def route (unhandled : Option Sink) (datagram : Bytes) (state : State C) : State C :=
  match Datagram.destination? datagram >>= state.find? with
  | none => state.passUnhandled unhandled datagram
  | some (handle, channel) =>
    match Channel.checkLive state.clock channel with
    | (channel, false) => (state.put handle channel).passUnhandled unhandled datagram
    | (channel, true) =>
      let (channel, packed) := Channel.send state.clock datagram channel
      let state := state.put handle channel
      match packed with
      | .ok packet => state.dispatch packet
      | .error error => state.countRefusal error

/-- Takes one local read.  A read that does not fall into datagrams has no effect but to be
counted. -/
def takeRead (unhandled : Option Sink) (bytes : Bytes) (state : State C) : State C :=
  match Datagram.split bytes with
  | .error _ =>
    state.count fun counters => { counters with framingErrors := counters.framingErrors + 1 }
  | .ok datagrams =>
    datagrams.foldl (fun state datagram => state.route unhandled datagram) state

/-- The room for one local read. -/
def readBuffer : Bytes := List.replicate Packet.Limits.standard.maxBytes 0

/-- Takes reads from a stream until it ends or fails, or not at all if the server is to stop. -/
def takeStream (unhandled : Option Sink) (stopping : Bool) (input : Pipe.Input) (state : State C) :
    State C × Except Pipe.Fault Unit :=
  if stopping then (state, .ok ())
  else
    let (reads, ending) := Pipe.frames readBuffer input
    (reads.foldl (fun state read => state.takeRead unhandled read) state, ending)

end TunnelServer.State
