import TunnelServer.Proofs.Run.Tally
import TunnelServer.Proofs.Session.Counting

/-!
# What all sessions count

The packets that cannot be used are not among the counters of a server; the sessions count them, each
its own.  Taken over all sessions that were ever made, mapped or not, the count grows by one with every
packet that the session could not use that it claims to belong to, and by nothing else: new sessions
start at zero, and sessions that are replaced keep what they have counted.
-/

namespace TunnelServer

/-- Whether an operation gives a session a packet past the pump. -/
def SessionOperation.HandsPacket : SessionOperation → Prop
  | .common (.receive _ _) => True
  | _ => False

/-- The packets that were counted as invalid by any of the sessions that were ever made. -/
def State.invalidTotal (state : State Session) : ℕ :=
  (state.channels.map Session.invalidCount).sum

/-- An event brings a packet that the session that it claims to belong to cannot use. -/
def Occurrence.Wastes (link : LocalLink) (event : Occurrence) : Prop :=
  ∃ packet ∈ event.received?, event.state.arrival link.sink packet.1 packet.2 = .invalid

instance (link : LocalLink) : DecidablePred (Occurrence.Wastes link) := fun event =>
  inferInstanceAs (Decidable (∃ packet ∈ event.received?,
    event.state.arrival link.sink packet.1 packet.2 = .invalid))

theorem sum_set {counts : List ℕ} {place count : ℕ} (there : counts[place]? = some count)
    (changed : ℕ) : (counts.set place changed).sum + count = counts.sum + changed := by
  induction counts generalizing place with
  | nil => cases there
  | cons first rest hypothesis =>
      cases place with
      | zero =>
          cases there
          simp only [List.set_cons_zero, List.sum_cons]
          omega
      | succ place =>
          have later := hypothesis there
          simp only [List.set_cons_succ, List.sum_cons]
          omega

/-! ## One session -/

namespace Session

variable {clock : Clock} {session : Session}

/-- A call in which no packet is given leaves the count alone. -/
theorem invalidCount_of_call (call : Call) (other : ∀ packet, call ≠ .receive packet)
    (clock : Clock) (session : Session) :
    ((⟨clock, session⟩ : Moment).after call).session.invalidCount = session.invalidCount :=
  (Moment.counters_after other ⟨clock, session⟩).1

theorem invalidCount_carry (clock : Clock) (datagram : Bytes) (session : Session) :
    (session.carry clock datagram).invalidCount = session.invalidCount := by
  simp only [carry]
  split
  · exact session.invalidCount_of_call (.send datagram) (by rintro _ ⟨⟩) clock
  · rfl

theorem invalidCount_of_create {record : TunnelRecord}
    (made : Session.create record clock = .ok session) : session.invalidCount = 0 := by
  simp only [create] at made
  split at made
  · cases made
  · cases made
    rfl

theorem invalidCount_passed (clock : Clock) (session : Session) :
    (session.passed clock).invalidCount = session.invalidCount := by
  simp only [passed]
  split <;> rfl

end Session

/-! ## The server -/

namespace State

variable {state before after : State Session} {handle : Handle} {session changed : Session}
variable {handles : List Handle}

theorem invalidTotal_set (known : state.channels[handle]? = some session) (changed : Session) :
    ((state.channels.set handle changed).map Session.invalidCount).sum + session.invalidCount =
      state.invalidTotal + changed.invalidCount := by
  rw [List.map_set]
  apply sum_set
  rw [List.getElem?_map, known, Option.map_some]

theorem invalidTotal_put (known : state.channels[handle]? = some session)
    (same : changed.invalidCount = session.invalidCount) :
    (state.put handle changed).invalidTotal = state.invalidTotal := by
  have summed := invalidTotal_set known changed
  simp only [invalidTotal, channels_put] at summed ⊢
  omega

theorem invalidTotal_onChannel {α : Type} {default : α} {act : Session → Session × α}
    (same : ∀ session, (act session).1.invalidCount = session.invalidCount) (handle : Handle)
    (state : State Session) :
    (state.onChannel handle default act).1.invalidTotal = state.invalidTotal := by
  simp only [onChannel]
  split
  · rfl
  · rename_i session known
    exact invalidTotal_put known (same session)

theorem invalidTotal_close (handle : Handle) (state : State Session) :
    (state.close handle).invalidTotal = state.invalidTotal :=
  invalidTotal_onChannel (fun _ => rfl) handle state

theorem invalidTotal_install (handle : Handle) (state : State Session) :
    (state.install handle).1.invalidTotal = state.invalidTotal := by
  simp only [install]
  split
  · rfl
  · split
    · rfl
    · split
      · rfl
      · exact invalidTotal_close _ _

theorem invalidTotal_installOrReplace (handle : Handle) (sink : Sink) (peer : SocketAddress)
    (state : State Session) :
    (state.installOrReplace handle sink peer).1.invalidTotal = state.invalidTotal := by
  rw [fst_installOrReplace]
  refine (invalidTotal_onChannel ?_ handle _).trans (invalidTotal_install handle state)
  intro session
  rw [Session.fst_attach]
  rfl

theorem invalidTotal_remove (identity : Identity) (state : State Session) :
    (state.remove identity).1.invalidTotal = state.invalidTotal := by
  simp only [remove]
  split
  · rfl
  · exact invalidTotal_close _ _

theorem invalidTotal_removeEach (identities : List Identity) (state : State Session) :
    (state.removeEach identities).invalidTotal = state.invalidTotal :=
  view_foldl invalidTotal _ (fun state identity => invalidTotal_remove identity state) identities
    state

theorem invalidTotal_replaceAll (handles : List Handle) (state : State Session) :
    (state.replaceAll handles).1.invalidTotal = state.invalidTotal :=
  (invalidTotal_removeEach _ _).trans
    (view_foldl invalidTotal _ (fun state handle => invalidTotal_install handle state) handles state)

theorem Sweeps.invalidTotal {change : Session → Session}
    (sweeps : Sweeps change handles before after)
    (same : ∀ session, (change session).invalidCount = session.invalidCount) :
    after.invalidTotal = before.invalidTotal := by
  apply congrArg List.sum
  apply List.ext_getElem?
  intro handle
  rw [List.getElem?_map, List.getElem?_map, sweeps.channels]
  split
  · simp only [Option.map_map, Function.comp_def, same]
  · rfl

/-- New sessions have counted nothing. -/
theorem invalidTotal_append {sessions : List Session}
    (fresh : ∀ session ∈ sessions, session.invalidCount = 0) :
    ({ state with channels := state.channels ++ sessions } : State Session).invalidTotal =
      state.invalidTotal := by
  have none : (sessions.map Session.invalidCount).sum = 0 := by
    apply List.sum_eq_zero
    intro count member
    rcases List.mem_map.mp member with ⟨session, among, rfl⟩
    exact fresh session among
  simp only [invalidTotal, List.map_append, List.sum_append, none, Nat.add_zero]

theorem invalidTotal_reload (ipv4Pop : Ipv4Address)
    (loaded : Except DirectoryError (List TunnelRecord)) (state : State Session) :
    (state.reload ipv4Pop loaded).1.invalidTotal = state.invalidTotal := by
  cases loaded with
  | error error => rfl
  | ok records =>
      refine (invalidTotal_replaceAll _ _).trans (invalidTotal_append ?_)
      intro session member
      rcases List.mem_filterMap.mp member with ⟨record, -, made⟩
      split at made
      · rename_i created
        cases made
        exact Session.invalidCount_of_create created
      · cases made

theorem invalidTotal_route (unhandled : Option Sink) (datagram : Bytes) (state : State Session) :
    (state.route unhandled datagram).invalidTotal = state.invalidTotal := by
  cases found : Datagram.destination? datagram >>= state.find? with
  | none =>
      have channels : (state.route unhandled datagram).channels = state.channels := by
        simp only [route, found]
        exact channels_passUnhandled unhandled datagram state
      simp only [invalidTotal, channels]
  | some taker =>
      rcases taker with ⟨handle, session⟩
      rcases Option.bind_eq_some_iff.mp found with ⟨identity, destination, mapped⟩
      have known := (find?_eq_some_iff.mp mapped).2
      have summed := invalidTotal_set known (session.carry state.clock datagram)
      rw [Session.invalidCount_carry] at summed
      simp only [invalidTotal, channels_route_of_find? destination mapped]
      exact Nat.add_right_cancel summed

theorem invalidTotal_takeRead (unhandled : Option Sink) (bytes : Bytes) (state : State Session) :
    (state.takeRead unhandled bytes).invalidTotal = state.invalidTotal := by
  simp only [takeRead]
  split
  · rfl
  · exact view_foldl invalidTotal _
      (fun state datagram => invalidTotal_route unhandled datagram state) _ state

theorem invalidTotal_takeStream (unhandled : Option Sink) (stopping : Bool) (input : Pipe.Input)
    (state : State Session) :
    (state.takeStream unhandled stopping input).1.invalidTotal = state.invalidTotal := by
  simp only [takeStream]
  split
  · rfl
  · exact view_foldl invalidTotal _ (fun state read => invalidTotal_takeRead unhandled read state)
      _ state

theorem invalidTotal_takePacket (localSink : Sink) (packet : Bytes) (source : SocketAddress)
    (state : State Session) :
    (state.takePacket localSink packet source).invalidTotal = state.invalidTotal +
      if state.arrival localSink packet source = .invalid then 1 else 0 := by
  have channels : (state.takePacket localSink packet source).channels =
      state.channelsTaking localSink packet source := by
    rw [takePacket_eq]
  cases taker : state.taker? packet with
  | none =>
      have unwasted : state.arrival localSink packet source ≠ .invalid := by
        rcases arrival_of_untaken taker localSink source with malformed | unclaimed
        · simp [malformed]
        · simp [unclaimed]
      simp only [invalidTotal, channels, channelsTaking, taker, unwasted, if_false, Nat.add_zero]
  | some taking =>
      rcases taking with ⟨handle, session⟩
      rcases taker?_eq_some_iff.mp taker with ⟨sender, claimed, -, known⟩
      have counted := session.invalidCount_taking state.clock
        (length_of_claimedSender? claimed) localSink source
      have summed := invalidTotal_set known (session.taking state.clock localSink packet source)
      simp only [invalidTotal, channels, channelsTaking, taker, arrival_of_taker? taker] at summed ⊢
      omega

end State

/-! ## Events -/

namespace Occurrence

open State

variable {link : LocalLink} {event : Occurrence}

theorem wastes_packet {state : State Session} {bytes : Bytes} {source : SocketAddress} :
    Wastes link ⟨state, .common (.packet bytes source)⟩ ↔
      state.arrival link.sink bytes source = .invalid := by
  simp [Wastes, received?]

/-- An event adds to what the sessions have counted what it wastes. -/
theorem invalidTotal_next (keyed : event.state.Keyed) (apart : ¬event.operation.HandsPacket) :
    (event.next link).invalidTotal =
      event.state.invalidTotal + if event.Wastes link then 1 else 0 := by
  rcases event with ⟨state, operation⟩
  cases operation with
  | common operation =>
      cases operation with
      | advance nanos => rfl
      | outages present => rfl
      | connect handle sink peer =>
          exact invalidTotal_onChannel (fun session => session.invalidCount_of_call
            (.connect sink peer) (by rintro _ ⟨⟩) state.clock) handle state
      | reconnect handle sink peer =>
          exact invalidTotal_onChannel (fun session => session.invalidCount_of_call
            (.reconnect sink peer) (by rintro _ ⟨⟩) state.clock) handle state
      | close handle => exact invalidTotal_close handle state
      | checkLive handle =>
          exact invalidTotal_onChannel (fun session => session.invalidCount_of_call
            .checkLive (by rintro _ ⟨⟩) state.clock) handle state
      | receive handle packet => exact absurd trivial apart
      | send handle datagram =>
          simp only [next, SessionOperation.apply, Operation.apply]
          split
          · rfl
          · rename_i session known
            exact invalidTotal_put known
              (session.invalidCount_of_call (.send datagram) (by rintro _ ⟨⟩) state.clock)
      | install handle => exact invalidTotal_install handle state
      | installOrReplace handle sink peer =>
          exact invalidTotal_installOrReplace handle sink peer state
      | remove identity => exact invalidTotal_remove identity state
      | replaceAll handles => exact invalidTotal_replaceAll handles state
      | connectedCount =>
          exact (sweeps_connectedCount keyed).invalidTotal fun session =>
            session.invalidCount_of_call .checkLive (by rintro _ ⟨⟩) state.clock
      | removeAll => exact invalidTotal_removeEach _ state
      | packet bytes source =>
          simp only [wastes_packet]
          exact invalidTotal_takePacket link.sink bytes source state
      | localRead bytes => exact invalidTotal_takeRead link.unhandled bytes state
      | localStream stopping input =>
          exact invalidTotal_takeStream link.unhandled stopping input state
  | create record =>
      simp only [next, SessionOperation.apply]
      split
      · rfl
      · rename_i session created
        apply invalidTotal_append
        intro added member
        rw [List.mem_singleton.mp member]
        exact Session.invalidCount_of_create created
  | beat handle =>
      simp only [next, SessionOperation.apply]
      split
      · rfl
      · rename_i session known
        exact invalidTotal_put known (session.invalidCount_of_call .beat (by rintro _ ⟨⟩) state.clock)
  | heartbeatPass =>
      exact (visits_heartbeatPass keyed).sweeps.invalidTotal
        (Session.invalidCount_passed state.clock)
  | survey =>
      exact (sweeps_survey keyed).invalidTotal fun session =>
        session.invalidCount_of_call .checkLive (by rintro _ ⟨⟩) state.clock
  | reload ipv4Pop loaded => exact invalidTotal_reload ipv4Pop loaded state

end Occurrence

/-- The sessions of a server have counted the packets that its events have wasted. -/
theorem Chronicle.invalidTotal_eq {link : LocalLink} {permitted : SessionOperation → Prop}
    {origin : Clock} {events : List Occurrence} {state : State Session}
    (chronicle : Chronicle link permitted origin events state)
    (apart : ∀ operation, permitted operation → ¬operation.HandsPacket) :
    state.invalidTotal = events.countP fun event => event.Wastes link := by
  induction chronicle with
  | start => rfl
  | @step events state registry earlier same operation allowed hypothesis =>
      let event : Occurrence := ⟨{ state with registry := registry }, operation⟩
      have keyed : event.state.Keyed := earlier.keyed.reordered same
      rw [List.countP_cons, ← hypothesis]
      simp only [decide_eq_true_eq]
      exact event.invalidTotal_next keyed (apart operation allowed)

end TunnelServer
