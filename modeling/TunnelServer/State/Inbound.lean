import TunnelServer.Packet.Admission
import TunnelServer.State

/-!
# From peers to the local network

A packet whose header is in order is handed to the channel of the tunnel that it claims to belong
to.  The channel follows the source before it looks further, so that a peer that moves is followed
from its first packet on.  What the channel delivers is written to the sink it had recorded.
-/

namespace TunnelServer.State

variable {C : Type} [Channel C]

/-- Counts what became of an action and performs it. -/
def perform (action : Action) (state : State C) : State C :=
  match action with
  | .nothing => state
  | .deliver payload sink =>
    match state.write sink payload with
    | (state, .ok ()) =>
      state.count fun counters => { counters with delivered := counters.delivered + 1 }
    | (state, .error _) =>
      state.count fun counters => { counters with sinkErrors := counters.sinkErrors + 1 }

omit [Channel C] in
/-- A sink that is up takes the payload; one that is down costs a count. -/
theorem perform_deliver (payload : Bytes) (sink : Sink) (state : State C) :
    state.perform (.deliver payload sink) =
      if sink ∈ state.outages.sinks then
        state.count fun counters => { counters with sinkErrors := counters.sinkErrors + 1 }
      else
        count (fun counters => { counters with delivered := counters.delivered + 1 })
          { state with written := state.written ++ [⟨sink, payload⟩] } := by
  simp only [perform, write]
  by_cases down : sink ∈ state.outages.sinks <;> simp [down]

/-- Takes a packet that came from a source.  A channel that is connected by it delivers to the
given sink. -/
def takePacket (localSink : Sink) (packet : Bytes) (source : SocketAddress) (state : State C) :
    State C :=
  let state := state.count fun counters => { counters with received := counters.received + 1 }
  match Packet.claimedSender? packet state.clock.epoch with
  | none =>
    state.count fun counters => { counters with precheckDrops := counters.precheckDrops + 1 }
  | some sender =>
    match state.find? sender with
    | none =>
      state.count fun counters =>
        { counters with unknownTunnelDrops := counters.unknownTunnelDrops + 1 }
    | some (handle, channel) =>
      let (channel, accepted) := Channel.accept state.clock localSink source packet channel
      let state := state.put handle channel
      match accepted with
      | .ok action => state.perform action
      | .error error => state.countRefusal error

end TunnelServer.State
