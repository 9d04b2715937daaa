import TunnelServer.Session
import TunnelServer.State.Outbound

/-!
# Heartbeats

From time to time every mapped session is visited.  One whose peer is gone is counted; one that has
sent nothing for its heartbeat interval sends a heartbeat.
-/

namespace TunnelServer.State

/-- What one pass over the sessions found and did. -/
structure PassReport where
  connected : Nat := 0
  timedOut : Nat := 0
  heartbeats : Nat := 0
  deriving DecidableEq

/-- Sends a heartbeat and counts it. -/
def dispatchHeartbeat (packet : Transmission) (report : PassReport) (state : State Session) :
    State Session × PassReport :=
  match state.transmit packet with
  | (state, .ok ()) =>
    (state.count fun counters =>
        { counters with heartbeats := counters.heartbeats + 1, sent := counters.sent + 1 },
      { report with heartbeats := report.heartbeats + 1 })
  | (state, .error _) =>
    (state.count fun counters => { counters with sendErrors := counters.sendErrors + 1 }, report)

/-- A heartbeat reaches its peer unless that is down. -/
theorem dispatchHeartbeat_eq (packet : Transmission) (report : PassReport)
    (state : State Session) :
    state.dispatchHeartbeat packet report =
      if packet.peer ∈ state.outages.peers then
        (state.count fun counters => { counters with sendErrors := counters.sendErrors + 1 },
          report)
      else
        (count (fun counters =>
              { counters with heartbeats := counters.heartbeats + 1, sent := counters.sent + 1 })
            { state with sent := state.sent ++ [packet] },
          { report with heartbeats := report.heartbeats + 1 }) := by
  simp only [dispatchHeartbeat, transmit]
  by_cases down : packet.peer ∈ state.outages.peers <;> simp [down]

/-- Visits one session that is connected. -/
def visitConnected (handle : Handle) (session : Session) (report : PassReport)
    (state : State Session) : State Session × PassReport :=
  if session.heartbeatDue state.clock then
    let (session, packed) := session.beat state.clock
    let state := state.put handle session
    match packed with
    | .ok packet => state.dispatchHeartbeat packet report
    | .error error => (state.countRefusal error, report)
  else (state.put handle session, report)

/-- Visits one session. -/
def visit (handle : Handle) (report : PassReport) (state : State Session) :
    State Session × PassReport :=
  match state.channels[handle]? with
  | none => (state, report)
  | some session =>
    let hadPeer := session.peer?.isSome
    match session.checkLive state.clock with
    | (session, true) =>
      state.visitConnected handle session { report with connected := report.connected + 1 }
    | (session, false) =>
      let state := state.put handle session
      if hadPeer then
        (state.count fun counters => { counters with timeouts := counters.timeouts + 1 },
          { report with timedOut := report.timedOut + 1 })
      else (state, report)

/-- Visits sessions in a given order. -/
def passOver (handles : List Handle) (state : State Session) : State Session × PassReport :=
  handles.foldl (fun (state, report) handle => state.visit handle report) (state, {})

/-- Visits every mapped session. -/
def heartbeatPass (state : State Session) : State Session × PassReport :=
  state.passOver state.registry.handles

end TunnelServer.State
