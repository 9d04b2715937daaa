import TunnelServer.State.Reload

/-!
# Commands

What an administrator can ask of a running server, and the signals that stand for it.
-/

namespace TunnelServer.Server

/-- A command of an administrator. -/
inductive Command where
  /-- Load the directory again. -/
  | reload
  /-- Show all tunnels and the counters. -/
  | dump
  | shutdown
  deriving DecidableEq

namespace Command

/-- The command of a signal: hang-up, the second user signal, interrupt and termination. -/
def ofSignal? (signal : Int) : Option Command :=
  if signal = 1 then some reload
  else if signal = 12 then some dump
  else if signal = 2 || signal = 15 then some shutdown
  else none

end Command

end TunnelServer.Server

namespace TunnelServer.State

/-- Obeys a command, given what loading the directory would give; tells whether to go on.  A reload
that fails changes nothing. -/
def obey (ipv4Pop : Ipv4Address) (loaded : Except DirectoryError (List TunnelRecord))
    (command : Server.Command) (state : State Session) : State Session × Bool :=
  match command with
  | .reload => ((state.reload ipv4Pop loaded).1, true)
  | .dump => (state.survey.1, true)
  | .shutdown => (state, false)

end TunnelServer.State
