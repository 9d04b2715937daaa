import TunnelServer.Proofs.Heartbeats
import TunnelServer.Proofs.Run.Reading

/-!
# The packets that sessions pack

Sessions pack local datagrams when they are read, and heartbeats when a pass finds them due.  Nothing
else makes a session pack anything, as long as sessions are not called past the registry and the pumps,
and nothing is sent that was not packed.
-/

namespace TunnelServer

/-- The heartbeat that a session packs if it is due for one, with the session. -/
def State.heartbeat? (handle : Handle) (state : State Session) : Option (Handle × Transmission) := do
  let session ← state.channels[handle]?
  let packet ← (session.finding state.clock).heartbeat?
  return (handle, packet)

/-- Whether an operation calls a session past the registry and the pumps. -/
def SessionOperation.CallsSession : SessionOperation → Prop
  | .common (.checkLive _) => True
  | .common (.send _ _) => True
  | .beat _ => True
  | operation => operation.Meddles

namespace Occurrence

/-- The datagrams that an event takes from the local network, in order. -/
def datagrams (event : Occurrence) : List Bytes :=
  match event.operation with
  | .common (.localRead bytes) => Datagram.rowOf bytes
  | .common (.localStream stopping input) =>
    if stopping then [] else (Pipe.frames State.readBuffer input).1.flatMap Datagram.rowOf
  | _ => []

/-- The packets that are packed in an event, in order, each with the session that packs it. -/
def packets (event : Occurrence) : List (Handle × Transmission) :=
  match event.operation with
  | .heartbeatPass => event.state.registry.handles.filterMap event.state.heartbeat?
  | _ => event.datagrams.filterMap event.state.carried?

end Occurrence

namespace State

variable {state after : State Session} {handle other : Handle} {packet : Transmission}

theorem heartbeat?_eq_some_iff :
    state.heartbeat? other = some (handle, packet) ↔
      other = handle ∧ ∃ session, state.channels[handle]? = some session ∧
        session.finding state.clock = .due packet := by
  simp only [heartbeat?, Option.bind_eq_bind, Option.bind_eq_some_iff, Option.pure_def,
    Option.some.injEq, Prod.mk.injEq]
  constructor
  · rintro ⟨session, known, _, found, rfl, rfl⟩
    refine ⟨rfl, session, known, ?_⟩
    cases due : session.finding state.clock with
    | due heartbeat =>
        rw [due] at found
        exact congrArg Finding.due (Option.some.inj found)
    | _ =>
        rw [due] at found
        cases found
  · rintro ⟨rfl, session, known, found⟩
    exact ⟨session, known, packet, by rw [found]; rfl, rfl, rfl⟩

theorem Sends.of_onlySessions (only : state.OnlySessions after) : Sends [] state after := by
  rw [OnlySessions] at only
  rw [only]
  exact .nothing rfl rfl

theorem sends_perform (action : Action) (state : State Session) :
    Sends [] state (state.perform action) := by
  cases action with
  | nothing => exact .nothing rfl rfl
  | deliver payload sink =>
      rw [perform_deliver]
      split <;> exact .nothing rfl rfl

theorem sends_takePacket (localSink : Sink) (bytes : Bytes) (source : SocketAddress)
    (state : State Session) : Sends [] state (state.takePacket localSink bytes source) := by
  let counted := state.count fun counters => { counters with received := counters.received + 1 }
  have quiet : Sends [] state counted := .nothing rfl rfl
  simp only [takePacket]
  split
  · exact .nothing rfl rfl
  · split
    · exact .nothing rfl rfl
    · split
      · exact quiet.append rfl (sends_perform _ _).of_put
      · exact quiet.append rfl (sends_countRefusal _ _).of_put

theorem map_heartbeats (handles : List Handle) (state : State Session) :
    (handles.filterMap fun handle => state.heartbeat? handle).map Prod.snd =
      (state.findings handles).filterMap Finding.heartbeat? := by
  rw [findings, List.map_filterMap, List.filterMap_filterMap]
  apply List.filterMap_congr
  intro handle _
  simp only [heartbeat?, Option.bind_eq_bind]
  cases state.channels[handle]? with
  | none => rfl
  | some session =>
      rw [Option.bind_some, Option.map_some, Option.bind_some]
      cases session.finding state.clock <;> rfl

theorem sends_heartbeatPass (keyed : state.Keyed) :
    Sends ((state.registry.handles.filterMap state.heartbeat?).map Prod.snd) state
      state.heartbeatPass.1 := by
  have visits := visits_heartbeatPass keyed
  rw [map_heartbeats state.registry.handles state]
  refine ⟨visits.sent, ?_⟩
  rw [visits.counters, List.countP_eq_length_filter]
  rfl

end State

theorem SessionOperation.not_meddles {operation : SessionOperation}
    (indirect : ¬operation.CallsSession) : ¬operation.Meddles := by
  intro meddles
  apply indirect
  cases operation with
  | common operation => cases operation <;> first | exact meddles | trivial
  | _ => exact meddles.elim

namespace Occurrence

variable {link : LocalLink} {event : Occurrence}

/-- What an event sends is what it packs, but for packets whose peers are down. -/
theorem sends_next (keyed : event.state.Keyed) (indirect : ¬event.operation.CallsSession) :
    event.state.Sends (event.packets.map Prod.snd) (event.next link) := by
  rcases event with ⟨state, operation⟩
  cases operation with
  | common operation =>
      cases operation with
      | advance nanos => exact .nothing rfl rfl
      | outages present => exact .nothing rfl rfl
      | install handle => exact .of_aside (State.aside_install handle state)
      | installOrReplace handle sink peer =>
          have installed : State.Sends [] state (state.install handle).1 :=
            .of_aside (State.aside_install handle state)
          have attached : State.Sends [] state (state.installOrReplace handle sink peer).1 := by
            rw [State.fst_installOrReplace, State.onChannel]
            split
            · exact installed
            · exact ⟨installed.sent, installed.failed⟩
          exact attached
      | remove identity => exact .of_aside (State.aside_remove identity state)
      | replaceAll handles => exact .of_aside (State.aside_replaceAll handles state)
      | connectedCount => exact .of_onlySessions (State.onlySessions_connectedCount state)
      | removeAll => exact .of_aside (State.aside_removeEach _ state)
      | packet bytes source => exact State.sends_takePacket link.sink bytes source state
      | localRead bytes => exact (State.carries_takeRead link.unhandled keyed bytes).sends
      | localStream stopping input =>
          exact (State.carries_takeStream link.unhandled keyed stopping input).sends
      | _ => exact absurd trivial indirect
  | create record =>
      simp only [next, SessionOperation.apply]
      split
      · exact .nothing rfl rfl
      · exact .nothing rfl rfl
  | beat handle => exact absurd trivial indirect
  | heartbeatPass => exact State.sends_heartbeatPass keyed
  | survey => exact .of_onlySessions (State.onlySessions_survey state)
  | reload ipv4Pop loaded =>
      cases loaded with
      | error error => exact .nothing rfl rfl
      | ok records => exact .of_aside (State.aside_replaceAll _ _)

end Occurrence

end TunnelServer
