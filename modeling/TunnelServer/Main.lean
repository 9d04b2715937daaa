import Std.Async.Signal
import Std.Async.Timer
import Std.Async.UDP
import Std.Sync.Channel
import Std.Time
import TunnelServer.Server.Options
import TunnelServer.Server.Serve

/-!
# The command line

Serves tunnels on one UDP socket.  Readers turn packets, local frames, signals and the passing of
time into events; one loop deals with them in order and carries out what they ask for.
-/

namespace TunnelServer.Main

open TunnelServer.Server

/-! ## Addresses and faults of the operating system -/

/-- A socket address in the form of the system. -/
def toSystem : SocketAddress → Std.Net.SocketAddress
  | .v4 address port => .v4 { addr := ⟨⟨address.octets.toArray, address.length_octets⟩⟩, port }
  | .v6 address port _ =>
    .v6 { addr := ⟨Vector.ofFn fun index => address.groups.getD index 0⟩, port }

/-- A socket address from the form of the system. -/
def ofSystem : Std.Net.SocketAddress → SocketAddress
  | .v4 { addr, port } => .v4 ⟨addr.octets.toList, by simp⟩ port
  | .v6 { addr, port } => .v6 (Ipv6Address.ofGroups addr.segments.toList (by simp)) port 0

/-- A fault from an error of the system. -/
def toFault (error : IO.Error) : Pipe.Fault :=
  let kind : Pipe.FaultKind := match error with
    | .noFileOrDirectory .. => .notFound
    | .permissionDenied .. => .permissionDenied
    | .interrupted .. => .interrupted
    | .timeExpired .. => .timedOut
    | .resourceVanished .. => .brokenPipe
    | _ => .other
  .device kind (toString error)

/-- The records in a file. -/
def loadDirectory (path : String) : IO (Except DirectoryError (List TunnelRecord)) := do
  let content ← try
      pure (.ok (← IO.FS.readBinFile path).data.toList)
    catch error => pure (.error (toFault error))
  return Directory.load path content

/-! ## Readers -/

/-- Where readers put the events that the server deals with. -/
abbrev Inbox := Std.CloseableChannel.Sync Event

/-- Puts an event into the inbox, unless the server has stopped listening. -/
def post (inbox : Inbox) (event : Event) : IO Unit := do
  discard <| inbox.trySend event

/-- Posts packets as they come. -/
def readPackets (socket : Std.Async.UDP.Socket) (inbox : Inbox) : Std.Async.Async Unit := do
  let size := UInt64.ofNat Packet.Limits.standard.maxBytes
  repeat
    try
      let (bytes, source) ← socket.recv size
      if let some source := source then post inbox (.packet bytes.data.toList (ofSystem source))
    catch error => IO.eprintln s!"udp receive failed: {error}"

/-- Reads a number of octets, or what is left before the end. -/
partial def readOctets (stream : IO.FS.Stream) (count : Nat) : IO Bytes := do
  if count = 0 then return []
  let bytes := (← stream.read (USize.ofNat count)).data.toList
  if bytes = [] then return []
  return bytes ++ (← readOctets stream (count - bytes.length))

/-- Posts local reads, one a frame, until the stream ends or fails. -/
partial def readFrames (stream : IO.FS.Stream) (inbox : Inbox) : IO Unit := do
  let field ← readOctets stream Pipe.lengthOctets
  if field.length < Pipe.lengthOctets then return ← post inbox (.stopped .outbound none)
  match Pipe.decodeLength field Packet.Limits.standard.maxBytes with
  | .error error => post inbox (.stopped .outbound (some (.badFrame error)))
  | .ok length =>
    let body ← readOctets stream length
    if body.length < length then post inbox (.stopped .outbound (some .endedEarly))
    else
      post inbox (.localRead body)
      readFrames stream inbox

/-- Posts an event again and again. -/
def repeatEvent (millis : Nat) (event : Event) (inbox : Inbox) : Std.Async.Async Unit := do
  let pause := Std.Time.Millisecond.Offset.ofNat millis
  repeat
    Std.Async.sleep pause
    post inbox event

/-- Posts the command of a signal each time that it comes. -/
def readSignals (waiter : Std.Async.Signal.Waiter) (number : Int) (path : String)
    (inbox : Inbox) : Std.Async.Async Unit := do
  repeat
    discard <| Std.Async.await (← waiter.wait)
    match Command.ofSignal? number with
    | none => pure ()
    | some .reload => post inbox (.command .reload (← loadDirectory path))
    | some command => post inbox (.command command (.ok []))

/-! ## The loop -/

/-- The outside of a server. -/
structure Surroundings where
  socket : Std.Async.UDP.Socket
  sinks : List (Sink × IO.FS.Stream)

/-- Carries out what has gone out of a state. -/
def carryOut (surroundings : Surroundings) (state : State Session) : IO (State Session) := do
  for packet in state.sent do
    let bytes := ByteArray.mk packet.bytes.toArray
    let sending := surroundings.socket.send bytes (some (toSystem packet.peer))
    if let .error error ← sending.block.toBaseIO then IO.eprintln s!"udp send failed: {error}"
  for delivery in state.written do
    if let some stream := surroundings.sinks.lookup delivery.sink then
      if let .ok framed := Pipe.frame delivery.bytes then
        stream.write (ByteArray.mk framed.toArray)
        stream.flush
  return { state with sent := [], written := [] }

/-- Shows every tunnel. -/
def showTunnels (state : State Session) : IO Unit := do
  for entry in state.survey.2 do
    IO.eprintln (s!"tunnel {entry.identity.toText} ({entry.tunnelId}): peer {entry.peer}, " ++
      s!"connected {entry.connected}, valid seen {entry.validSeen}, invalid {entry.invalidCount}")

/-- Deals with events as they come. -/
partial def serveEvents (link : LocalLink) (ipv4Pop : Ipv4Address) (surroundings : Surroundings)
    (inbox : Inbox) (last : Nat) (serving : Serving) : IO (Except Error Unit) := do
  let event := (← inbox.recv).getD .disconnected
  let now ← IO.monoNanosNow
  if let .command .dump _ := event then showTunnels serving.state
  match Serving.steps link ipv4Pop serving [.elapsed (now - last), event] with
  | .running serving =>
    let state ← carryOut surroundings serving.state
    serveEvents link ipv4Pop surroundings inbox now { serving with state := state }
  | .ended state result =>
    discard <| carryOut surroundings state
    return result

/-- A stream that writes to the end of a file, or to standard output. -/
def openSink (path : Option String) : IO IO.FS.Stream := do
  match path with
  | none => IO.getStdout
  | some path => return .ofHandle (← IO.FS.Handle.mk path .append)

/-- A stream that reads a file, or standard input. -/
def openSource (path : Option String) : IO IO.FS.Stream := do
  match path with
  | none => IO.getStdin
  | some path => return .ofHandle (← IO.FS.Handle.mk path .read)

/-- The signals that are waited for, with their numbers. -/
def signals : List (Std.Async.Signal × Int) :=
  [(.sighup, 1), (.sigint, 2), (.sigusr2, 12), (.sigterm, 15)]

/-- Serves as the options say.  A read of the local network that is still waiting keeps the program
from leaving; signals then have their usual effect again. -/
def run (options : Options) : IO (Except Error Unit) := do
  let bind := options.settings.bind
  let source ← openSource options.input
  let sink ← openSink options.output
  let unhandled ← options.passUnhandled.mapM fun path => openSink (some path)
  let link : LocalLink := { sink := "local", unhandled := unhandled.map fun _ => "unhandled" }
  let sinks := ("local", sink) :: unhandled.toList.map fun stream => ("unhandled", stream)
  let socket ← Std.Async.UDP.Socket.mk
  if let .error error ← (socket.bind (toSystem bind)).toBaseIO then
    return .error (.bind bind (toFault error))
  let loaded ← loadDirectory options.tunnels
  let wallTime := (← Std.Time.Timestamp.now).toNanosecondsSinceUnixEpoch.toInt
  let state : State Session := { clock := { startEpoch := Epoch.ofWallTime wallTime } }
  match Server.serve link bind.ipv4 loaded [] state with
  | .ended _ result => return result
  | .running serving =>
    let inbox : Inbox ← Std.CloseableChannel.Sync.new
    discard <| IO.asTask (readFrames source inbox) Task.Priority.dedicated
    let start (reader : Std.Async.Async Unit) : IO Unit :=
      (Std.Async.background reader : Std.Async.Async Unit).block
    start (readPackets socket inbox)
    start (repeatEvent options.settings.heartbeatTick .heartbeatPass inbox)
    start (repeatEvent options.settings.monitorInterval .idle inbox)
    let waiters ← signals.mapM fun (signal, number) => do
      let waiter ← Std.Async.Signal.Waiter.mk signal true
      start (readSignals waiter number options.tunnels inbox)
      return waiter
    let result ← serveEvents link bind.ipv4 { socket, sinks } inbox (← IO.monoNanosNow) serving
    waiters.forM Std.Async.Signal.Waiter.stop
    return result

end TunnelServer.Main

/-- Serves the tunnels that the command line names, until told to stop. -/
def main (arguments : List String) : IO UInt32 := do
  match TunnelServer.Server.Options.parse arguments with
  | .error error =>
    IO.eprintln s!"error: {error.message}"
    return if error = .zeroTick then 1 else 2
  | .ok options =>
    match ← TunnelServer.Main.run options with
    | .ok () => return 0
    | .error error =>
      IO.eprintln s!"Error: {error.message}"
      return 1
