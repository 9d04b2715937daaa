import TunnelServer.Operation
import TunnelServer.Server.Command
import TunnelServer.Server.Error

/-!
# Serving

A server loads its directory, starts its workers and then waits for commands.  It goes on until it is
told to stop, nobody can tell it any more, or a worker is found to have stopped; whichever it is, all
mapped sessions are closed.  What the workers do in the meantime comes as events too, in any order.
-/

namespace TunnelServer.Server

/-- What happens while a server runs. -/
inductive Event where
  /-- A command comes; the directory would load as given. -/
  | command (command : Command) (loaded : Except DirectoryError (List TunnelRecord))
  /-- No command came for a while. -/
  | idle
  /-- No command can come any more. -/
  | disconnected
  | packet (bytes : Bytes) (source : SocketAddress)
  | localRead (bytes : Bytes)
  | heartbeatPass
  | elapsed (nanos : Nat)
  /-- A worker ends, with a fault or without one. -/
  | stopped (worker : Worker) (cause : Option Pipe.Fault)

/-- Where local datagrams come from. -/
inductive LocalSource where
  | stream (input : Pipe.Input)
  /-- Has nothing to read and says so every time. -/
  | silent
  /-- Brings down the worker that reads it. -/
  | crashing

/-- What the outbound worker does with a source, while nobody stops it. -/
def LocalSource.events : LocalSource → List Event
  | stream input =>
    let (reads, ending) := Pipe.frames State.readBuffer input
    let cause := match ending with
      | .ok () => none
      | .error fault => some fault
    reads.map Event.localRead ++ [.stopped .outbound cause]
  | silent => []
  | crashing => [.stopped .outbound none]

/-- A running server. -/
structure Serving where
  state : State Session
  /-- The workers that have stopped, and why. -/
  stopped : List (Worker × Option Pipe.Fault) := []

/-- How far a server has come. -/
inductive Progress where
  | running (serving : Serving)
  /-- It has ended, and this is its state once all mapped sessions were closed. -/
  | ended (state : State Session) (result : Except Error Unit)

namespace Serving

/-- The first worker, in the order in which they were started, that has stopped. -/
def firstStopped? (serving : Serving) : Option (Worker × Option Pipe.Fault) :=
  Worker.all.findSome? fun worker => serving.stopped.find? fun entry => entry.1 = worker

/-- Ends a server: all mapped sessions are closed. -/
def finish (serving : Serving) (result : Except Error Unit) : Progress :=
  .ended serving.state.closeAll result

/-- Looks after the workers. -/
def lookAfter (serving : Serving) : Progress :=
  match serving.firstStopped? with
  | some (worker, cause) => serving.finish (.error (.workerStopped worker cause))
  | none => .running serving

/-- Deals with one event. -/
def step (link : LocalLink) (ipv4Pop : Ipv4Address) (serving : Serving) : Event → Progress
  | .command command loaded =>
    match serving.state.obey ipv4Pop loaded command with
    | (state, true) => { serving with state := state }.lookAfter
    | (state, false) => { serving with state := state }.finish (.ok ())
  | .idle => serving.lookAfter
  | .disconnected => serving.finish (.ok ())
  | .packet bytes source =>
    .running { serving with state := serving.state.takePacket link.sink bytes source }
  | .localRead bytes =>
    .running { serving with state := serving.state.takeRead link.unhandled bytes }
  | .heartbeatPass => .running { serving with state := serving.state.heartbeatPass.1 }
  | .elapsed nanos =>
    .running { serving with
      state := { serving.state with clock := serving.state.clock.advance nanos } }
  | .stopped worker cause =>
    .running { serving with stopped := serving.stopped ++ [(worker, cause)] }

/-- Deals with events until the server ends. -/
def steps (link : LocalLink) (ipv4Pop : Ipv4Address) : Serving → List Event → Progress
  | serving, [] => .running serving
  | serving, event :: rest =>
    match serving.step link ipv4Pop event with
    | .running serving => steps link ipv4Pop serving rest
    | .ended state result => .ended state result

end Serving

/-- Serves: loads the directory, which has to succeed, and deals with events. -/
def serve (link : LocalLink) (ipv4Pop : Ipv4Address)
    (loaded : Except DirectoryError (List TunnelRecord)) (events : List Event)
    (state : State Session) : Progress :=
  match state.reload ipv4Pop loaded with
  | (state, .error error) => .ended state (.error (.directory error))
  | (state, .ok _) => Serving.steps link ipv4Pop { state := state } events

end TunnelServer.Server
