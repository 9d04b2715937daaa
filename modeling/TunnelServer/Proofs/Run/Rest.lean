import TunnelServer.Proofs.Routing
import TunnelServer.Proofs.Session.Liveness

/-!
# Operations that tell nothing of peers

Local reads, heartbeats, surveys and the like check whether sessions are live and make them send.
They leave the mapping alone and let every session rest.  The operations that are not of this kind
are told apart by whether they go through the registry and the packets that come in, or past them.
-/

namespace TunnelServer

namespace State

/-- A step leaves the clock and the mapping as they are and lets every session rest. -/
structure Rests (before after : State Session) : Prop where
  clock : after.clock = before.clock
  registry : after.registry = before.registry
  length : after.channels.length = before.channels.length
  sessions : ∀ (handle : Handle) (session : Session), before.channels[handle]? = some session →
    ∃ rested, after.channels[handle]? = some rested ∧ session.Rests before.clock rested

variable {state before between after : State Session} {handle : Handle} {session : Session}

namespace Rests

theorem of_same (clock : after.clock = before.clock) (registry : after.registry = before.registry)
    (channels : after.channels = before.channels) : before.Rests after := by
  refine ⟨clock, registry, congrArg List.length channels, ?_⟩
  intro handle session known
  rw [← channels] at known
  exact ⟨session, known, .refl before.clock session⟩

theorem refl (state : State Session) : state.Rests state := of_same rfl rfl rfl

theorem trans (first : before.Rests between) (second : between.Rests after) :
    before.Rests after := by
  refine ⟨second.clock.trans first.clock, second.registry.trans first.registry,
    second.length.trans first.length, ?_⟩
  intro handle session known
  rcases first.sessions handle session known with ⟨rested, found, once⟩
  rcases second.sessions handle rested found with ⟨last, there, again⟩
  rw [first.clock] at again
  exact ⟨last, there, once.trans again⟩

theorem put {rested : Session} (known : state.channels[handle]? = some session)
    (rests : session.Rests state.clock rested) : state.Rests (state.put handle rested) := by
  refine ⟨rfl, rfl, List.length_set, ?_⟩
  intro other found there
  rcases List.getElem?_eq_some_iff.mp known with ⟨bound, -⟩
  rw [channels_put, List.getElem?_set]
  split
  · rename_i same
    subst same
    cases known.symm.trans there
    exact ⟨rested, by simp, rests⟩
  · exact ⟨found, there, .refl state.clock found⟩

theorem foldl {α : Type} (step : State Session → α → State Session) (items : List α)
    (rests : ∀ (state : State Session) item, state.Rests (step state item)) (state : State Session) :
    state.Rests (items.foldl step state) := by
  induction items generalizing state with
  | nil => exact refl state
  | cons item rest hypothesis => exact (rests state item).trans (hypothesis (step state item))

theorem foldl_fst {α β : Type} (step : State Session × β → α → State Session × β) (items : List α)
    (rests : ∀ (pair : State Session × β) item, pair.1.Rests (step pair item).1)
    (pair : State Session × β) :
    pair.1.Rests (items.foldl step pair).1 := by
  induction items generalizing pair with
  | nil => exact refl pair.1
  | cons item rest hypothesis => exact (rests pair item).trans (hypothesis (step pair item))

theorem sameTunnels (rests : before.Rests after) : before.SameTunnels after := by
  refine ⟨rests.registry, ?_, rests.clock⟩
  apply List.ext_getElem?
  intro handle
  simp only [profiles, List.getElem?_map]
  cases known : before.channels[handle]? with
  | none =>
      have beyond := List.getElem?_eq_none_iff.mp known
      rw [← rests.length] at beyond
      rw [List.getElem?_eq_none beyond]
  | some session =>
      rcases rests.sessions handle session known with ⟨rested, found, rest⟩
      rw [found]
      exact congrArg some rest.profile

end Rests

/-! ## The operations -/

theorem rests_onChannel {α : Type} {default : α} {act : Session → Session × α}
    (rests : ∀ session : Session, session.Rests state.clock (act session).1) :
    state.Rests (state.onChannel handle default act).1 := by
  simp only [onChannel]
  split
  · exact .refl state
  · rename_i session known
    exact .put known (rests session)

theorem rests_connectedCount (state : State Session) : state.Rests state.connectedCount.1 := by
  simp only [connectedCount]
  refine Rests.foldl_fst _ _ ?_ (state, 0)
  intro pair handle
  exact rests_onChannel fun session => Session.rests_checkLive pair.1.clock session

theorem rests_countRefusal (error : ChannelError) (state : State Session) :
    state.Rests (state.countRefusal error) := by
  simp only [countRefusal]
  split <;> exact .of_same rfl rfl rfl

theorem rests_passUnhandled (unhandled : Option Sink) (datagram : Bytes) (state : State Session) :
    state.Rests (state.passUnhandled unhandled datagram) := by
  cases unhandled with
  | none => exact .of_same rfl rfl rfl
  | some sink =>
      rw [passUnhandled_some]
      split <;> exact .of_same rfl rfl rfl

theorem rests_dispatch (packet : Transmission) (state : State Session) :
    state.Rests (state.dispatch packet) := by
  rw [dispatch_eq]
  split <;> exact .of_same rfl rfl rfl

theorem rests_dispatchHeartbeat (packet : Transmission) (report : PassReport)
    (state : State Session) : state.Rests (state.dispatchHeartbeat packet report).1 := by
  rw [dispatchHeartbeat_eq]
  split <;> exact .of_same rfl rfl rfl

theorem rests_route (unhandled : Option Sink) (datagram : Bytes) (state : State Session) :
    state.Rests (state.route unhandled datagram) := by
  simp only [route]
  split
  · exact rests_passUnhandled unhandled datagram state
  · rename_i handle session found
    rcases Option.bind_eq_some_iff.mp found with ⟨destination, -, mapped⟩
    rcases find?_eq_some_iff.mp mapped with ⟨-, known⟩
    have checked := Session.rests_checkLive state.clock session
    split
    · rename_i gone result
      replace result : session.checkLive state.clock = (gone, false) := result
      rw [result] at checked
      exact (Rests.put known checked).trans (rests_passUnhandled unhandled datagram _)
    · rename_i live result
      replace result : session.checkLive state.clock = (live, true) := result
      rw [result] at checked
      have packed := checked.trans (live.rests_send state.clock datagram)
      refine (Rests.put known packed).trans ?_
      split
      · exact rests_dispatch _ _
      · exact rests_countRefusal _ _

theorem rests_takeRead (unhandled : Option Sink) (bytes : Bytes) (state : State Session) :
    state.Rests (state.takeRead unhandled bytes) := by
  simp only [takeRead]
  split
  · exact .of_same rfl rfl rfl
  · exact .foldl _ _ (fun state datagram => rests_route unhandled datagram state) state

theorem rests_takeStream (unhandled : Option Sink) (stopping : Bool) (input : Pipe.Input)
    (state : State Session) : state.Rests (state.takeStream unhandled stopping input).1 := by
  simp only [takeStream]
  split
  · exact .refl state
  · exact .foldl _ _ (fun state read => rests_takeRead unhandled read state) state

theorem rests_visit (handle : Handle) (report : PassReport) (state : State Session) :
    state.Rests (state.visit handle report).1 := by
  simp only [visit]
  split
  · exact .refl state
  · rename_i session known
    have checked := Session.rests_checkLive state.clock session
    split
    · rename_i live result
      rw [result] at checked
      simp only [visitConnected]
      split
      · refine (Rests.put known (checked.trans (live.rests_beat state.clock))).trans ?_
        split
        · exact rests_dispatchHeartbeat _ _ _
        · exact rests_countRefusal _ _
      · exact .put known checked
    · rename_i gone result
      rw [result] at checked
      split
      · exact (Rests.put known checked).trans (.of_same rfl rfl rfl)
      · exact .put known checked

theorem rests_heartbeatPass (state : State Session) : state.Rests state.heartbeatPass.1 := by
  simp only [heartbeatPass, passOver]
  exact Rests.foldl_fst _ _ (fun pair handle => rests_visit handle pair.2 pair.1) (state, {})

theorem rests_survey (state : State Session) : state.Rests state.survey.1 := by
  simp only [survey]
  refine Rests.foldl_fst _ _ ?_ (state, [])
  intro pair handle
  split
  · exact .refl _
  · rename_i session known
    exact .put known (Session.rests_checkLive _ session)

end State

namespace SessionOperation

/-- Whether an operation does no more to sessions than to check whether they are live and to make
them send. -/
def IsPassive : SessionOperation → Prop
  | .common (.outages _) => True
  | .common (.checkLive _) => True
  | .common (.send _ _) => True
  | .common .connectedCount => True
  | .common (.localRead _) => True
  | .common (.localStream _ _) => True
  | .beat _ => True
  | .heartbeatPass => True
  | .survey => True
  | _ => False

/-- Whether an operation tells a session about its peer past the registry and the pumps. -/
def Meddles : SessionOperation → Prop
  | .common (.connect _ _ _) => True
  | .common (.reconnect _ _ _) => True
  | .common (.close _) => True
  | .common (.receive _ _) => True
  | _ => False

/-- The operations that neither are passive nor meddle: time passes, sessions are made, registered
or removed, and packets come in. -/
inductive IsActive : SessionOperation → Prop where
  | advance (nanos : Nat) : IsActive (.common (.advance nanos))
  | install (handle : Handle) : IsActive (.common (.install handle))
  | installOrReplace (handle : Handle) (sink : Sink) (peer : SocketAddress) :
      IsActive (.common (.installOrReplace handle sink peer))
  | remove (identity : Identity) : IsActive (.common (.remove identity))
  | replaceAll (handles : List Handle) : IsActive (.common (.replaceAll handles))
  | removeAll : IsActive (.common .removeAll)
  | packet (bytes : Bytes) (source : SocketAddress) : IsActive (.common (.packet bytes source))
  | create (record : TunnelRecord) : IsActive (.create record)
  | reload (ipv4Pop : Ipv4Address) (loaded : Except DirectoryError (List TunnelRecord)) :
      IsActive (.reload ipv4Pop loaded)

theorem isPassive_or_isActive {operation : SessionOperation} (indirect : ¬operation.Meddles) :
    operation.IsPassive ∨ operation.IsActive := by
  cases operation with
  | common operation =>
      cases operation with
      | advance nanos => exact .inr (.advance nanos)
      | install handle => exact .inr (.install handle)
      | installOrReplace handle sink peer => exact .inr (.installOrReplace handle sink peer)
      | remove identity => exact .inr (.remove identity)
      | replaceAll handles => exact .inr (.replaceAll handles)
      | removeAll => exact .inr .removeAll
      | packet bytes source => exact .inr (.packet bytes source)
      | connect => exact absurd trivial indirect
      | reconnect => exact absurd trivial indirect
      | close => exact absurd trivial indirect
      | receive => exact absurd trivial indirect
      | _ => exact .inl trivial
  | create record => exact .inr (.create record)
  | reload ipv4Pop loaded => exact .inr (.reload ipv4Pop loaded)
  | _ => exact .inl trivial

theorem rests_apply (link : LocalLink) (state : State Session) {operation : SessionOperation}
    (passive : operation.IsPassive) : state.Rests (operation.apply link state).1 := by
  cases operation with
  | common operation =>
      cases operation with
      | outages present => exact .of_same rfl rfl rfl
      | checkLive handle =>
          exact State.rests_onChannel fun session => Session.rests_checkLive state.clock session
      | send handle datagram =>
          simp only [apply, Operation.apply]
          split
          · exact .refl state
          · rename_i session known
            exact .put known (session.rests_send state.clock datagram)
      | connectedCount => exact State.rests_connectedCount state
      | localRead bytes => exact State.rests_takeRead link.unhandled bytes state
      | localStream stopping input =>
          exact State.rests_takeStream link.unhandled stopping input state
      | _ => exact passive.elim
  | beat handle =>
      simp only [apply]
      split
      · exact .refl state
      · rename_i session known
        exact .put known (session.rests_beat state.clock)
  | heartbeatPass => exact State.rests_heartbeatPass state
  | survey => exact State.rests_survey state
  | _ => exact passive.elim

end SessionOperation

end TunnelServer
