import TunnelServer.Address.Socket
import TunnelServer.Directory

/-!
# Why a server stops

What can keep a server from starting, or end it while it runs.
-/

namespace TunnelServer.Server

/-- The parts of a server that work on their own. -/
inductive Worker where
  /-- Takes packets from peers. -/
  | inbound
  /-- Takes datagrams from the local network. -/
  | outbound
  /-- Makes heartbeat passes. -/
  | scheduler
  deriving DecidableEq

namespace Worker

/-- All workers, in the order in which they are started and looked after. -/
def all : List Worker := [inbound, outbound, scheduler]

theorem mem_all (worker : Worker) : worker ∈ all := by
  cases worker <;> simp [all]

def name : Worker → String
  | inbound => "inbound"
  | outbound => "outbound"
  | scheduler => "scheduler"

def ofName? (name : String) : Option Worker := all.find? fun worker => worker.name = name

end Worker

/-- Why a server did not start, or stopped. -/
inductive Error where
  | bind (address : SocketAddress) (cause : Pipe.Fault)
  | socket (cause : Pipe.Fault)
  | directory (cause : DirectoryError)
  | spawn (worker : Worker) (cause : Pipe.Fault)
  /-- A worker ended while the server ran, with a fault or without one. -/
  | workerStopped (worker : Worker) (cause : Option Pipe.Fault)
  deriving DecidableEq

namespace Error

def message : Error → String
  | bind address cause => "failed to bind " ++ address.toText ++ ": " ++ cause.message
  | socket cause => "socket setup failed: " ++ cause.message
  | directory cause => cause.message
  | spawn worker cause => "failed to start " ++ worker.name ++ " thread: " ++ cause.message
  | workerStopped worker none => worker.name ++ " thread stopped"
  | workerStopped worker (some cause) => worker.name ++ " thread failed: " ++ cause.message

/-- The text of what lies behind an error. -/
def cause? : Error → Option String
  | bind _ cause | socket cause | spawn _ cause => some cause.message
  | directory cause => some cause.message
  | workerStopped _ cause => cause.map Pipe.Fault.message

end Error

end TunnelServer.Server
