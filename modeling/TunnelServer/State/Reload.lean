import TunnelServer.Directory
import TunnelServer.Session
import TunnelServer.State.Registration

/-!
# Reloading and surveying the tunnels

A reload replaces all sessions by new ones made of the directory's records; records of which no
session can be made are skipped.  If the directory cannot be read, everything stays as it is.
-/

namespace TunnelServer.State

/-- What a reload did. -/
structure ReloadReport where
  installed : Nat
  skipped : Nat
  deriving DecidableEq

/-- The sessions that can be made of records, for a server reached under an address. -/
def sessionsOf (ipv4Pop : Ipv4Address) (clock : Clock) (records : List TunnelRecord) :
    List Session :=
  records.filterMap fun record =>
    match Session.create { record with ipv4Pop := some ipv4Pop } clock with
    | .ok session => some session
    | .error _ => none

/-- Replaces the sessions by those of a loaded directory. -/
def reload (ipv4Pop : Ipv4Address) (loaded : Except DirectoryError (List TunnelRecord))
    (state : State Session) : State Session × Except DirectoryError ReloadReport :=
  match loaded with
  | .error error => (state, .error error)
  | .ok records =>
    let sessions := sessionsOf ipv4Pop state.clock records
    let known := state.channels.length
    let handles := List.range' known sessions.length
    let (state, installed) :=
      { state with channels := state.channels ++ sessions }.replaceAll handles
    (state, .ok { installed := installed, skipped := records.length - sessions.length })

/-- What a survey tells of a session. -/
structure SurveyEntry where
  identity : Identity
  tunnelId : String
  /-- The peer on record before the session was checked. -/
  peer : String
  connected : Bool
  validSeen : Bool
  invalidCount : Nat

/-- Surveys one session; whether it is connected is checked in passing. -/
def surveyOne (clock : Clock) (session : Session) : Session × SurveyEntry :=
  let (checked, live) := session.checkLive clock
  (checked, {
    identity := session.identity
    tunnelId := session.profile.tunnelId
    peer := session.describePeer
    connected := live
    validSeen := session.validSeen
    invalidCount := session.invalidCount })

/-- Surveys every mapped session. -/
def survey (state : State Session) : State Session × List SurveyEntry :=
  state.registry.handles.foldl
    (fun (state, entries) handle =>
      match state.channels[handle]? with
      | none => (state, entries)
      | some session =>
        let (session, entry) := surveyOne state.clock session
        (state.put handle session, entries ++ [entry]))
    (state, [])

/-- Closes every mapped session. -/
def closeAll (state : State Session) : State Session :=
  state.registry.handles.foldl (fun state handle => state.close handle) state

end TunnelServer.State
