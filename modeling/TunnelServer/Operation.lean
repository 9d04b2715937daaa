import TunnelServer.State.Heartbeat
import TunnelServer.State.Inbound
import TunnelServer.State.Registration
import TunnelServer.State.Reload

/-!
# Operations and runs

Everything that can happen to a server, one thing at a time.  A run is a list of operations, and
what they answer is kept beside the state, so that two runs can be compared step by step.
-/

namespace TunnelServer

/-- Where a server's local traffic goes. -/
structure LocalLink where
  /-- Takes the payloads that come from peers. -/
  sink : Sink
  /-- Takes local datagrams that no tunnel claims, if anything does. -/
  unhandled : Option Sink := none

/-- What can happen to a server whatever its channels are. -/
inductive Operation where
  | advance (nanos : Nat)
  | outages (outages : Outages)
  | connect (handle : Handle) (sink : Sink) (peer : SocketAddress)
  | reconnect (handle : Handle) (sink : Sink) (peer : SocketAddress)
  | close (handle : Handle)
  | checkLive (handle : Handle)
  | receive (handle : Handle) (packet : Bytes)
  | send (handle : Handle) (datagram : Bytes)
  | install (handle : Handle)
  | installOrReplace (handle : Handle) (sink : Sink) (peer : SocketAddress)
  | remove (identity : Identity)
  | replaceAll (handles : List Handle)
  | connectedCount
  | removeAll
  | packet (bytes : Bytes) (source : SocketAddress)
  | localRead (bytes : Bytes)
  | localStream (stopping : Bool) (input : Pipe.Input)

/-- What can happen to a server of sessions. -/
inductive SessionOperation where
  | common (operation : Operation)
  | create (record : TunnelRecord)
  | beat (handle : Handle)
  | heartbeatPass
  | survey
  | reload (ipv4Pop : Ipv4Address) (loaded : Except DirectoryError (List TunnelRecord))

/-- What an operation answers. -/
inductive Outcome where
  | done
  | settled (result : Except ChannelError Unit)
  | live (connected : Bool)
  | received (result : Except ChannelError Action)
  | packed (result : Except ChannelError Transmission)
  | displaced (result : Except ChannelError (Option Handle))
  | counted (number : Nat)
  | streamed (result : Except Pipe.Fault Unit)
  | created (result : Except ChannelError Handle)
  | passed (report : State.PassReport)
  | surveyed (entries : List State.SurveyEntry)
  | reloaded (result : Except DirectoryError State.ReloadReport)

namespace Operation

variable {C : Type} [Channel C]

def apply (link : LocalLink) (state : State C) : Operation → State C × Outcome
  | advance nanos => ({ state with clock := state.clock.advance nanos }, .done)
  | outages present => ({ state with outages := present }, .done)
  | connect handle sink peer =>
    (state.onChannel handle (.ok ()) (Channel.connect state.clock sink peer)).map id .settled
  | reconnect handle sink peer =>
    (state.onChannel handle (.ok ()) (Channel.reconnect state.clock sink peer)).map id .settled
  | close handle => (state.close handle, .done)
  | checkLive handle =>
    (state.onChannel handle false (Channel.checkLive state.clock)).map id .live
  | receive handle bytes =>
    (state.onChannel handle (.ok .nothing) (Channel.receive state.clock bytes)).map id .received
  | send handle datagram =>
    match state.channels[handle]? with
    | none => (state, .done)
    | some channel =>
      let (channel, result) := Channel.send state.clock datagram channel
      (state.put handle channel, .packed result)
  | install handle => (state.install handle).map id fun replaced => .displaced (.ok replaced)
  | installOrReplace handle sink peer =>
    (state.installOrReplace handle sink peer).map id .displaced
  | remove identity => (state.remove identity).map id fun removed => .displaced (.ok removed)
  | replaceAll handles => (state.replaceAll handles).map id .counted
  | connectedCount => state.connectedCount.map id .counted
  | removeAll => state.removeAll.map id .counted
  | packet bytes source => (state.takePacket link.sink bytes source, .done)
  | localRead bytes => (state.takeRead link.unhandled bytes, .done)
  | localStream stopping input =>
    (state.takeStream link.unhandled stopping input).map id .streamed

end Operation

namespace SessionOperation

/-- Performs an operation on a server of sessions. -/
def apply (link : LocalLink) (state : State Session) : SessionOperation → State Session × Outcome
  | common operation => operation.apply link state
  | create record =>
    match Session.create record state.clock with
    | .error error => (state, .created (.error error))
    | .ok session => (state.add session).map id fun handle => .created (.ok handle)
  | beat handle =>
    match state.channels[handle]? with
    | none => (state, .done)
    | some session =>
      let (session, result) := session.beat state.clock
      (state.put handle session, .packed result)
  | heartbeatPass => state.heartbeatPass.map id .passed
  | survey => state.survey.map id .surveyed
  | reload ipv4Pop loaded => (state.reload ipv4Pop loaded).map id .reloaded

/-- Performs operations in order and keeps what they answer. -/
def run (link : LocalLink) : State Session → List SessionOperation → State Session × List Outcome
  | state, [] => (state, [])
  | state, operation :: rest =>
    let (state, outcome) := operation.apply link state
    let (state, outcomes) := run link state rest
    (state, outcome :: outcomes)

end SessionOperation

end TunnelServer
