import TunnelServer.Operation
import TunnelServer.Proofs.Session.Change

/-!
# What can become of the tunnels of a server

Every operation acts on the sessions and on the registry by a few moves: it adds an unlinked session,
changes a session, maps a session or takes an identity out of the mapping.  All else that it does is
aside.  A move links a session only if it is mapped, or if it is linked directly, which `direct`
permits or not; and it maps a session only if whatever was mapped before is without a link.
Invariants of the tunnels are proved once for each move, in `TunnelServer.Proofs.Run.Reachable`.
-/

namespace TunnelServer.State

/-- One move on the tunnels of a server; `mappable` says which sessions it may map. -/
inductive Move (direct : Prop) (mappable : Handle → Prop) :
    State Session → State Session → Prop where
  | aside {before after : State Session} (channels : after.channels = before.channels)
      (registry : after.registry = before.registry) : Move direct mappable before after
  | added (state : State Session) {session : Session} (unlinked : session.link = none) :
      Move direct mappable state (state.add session).1
  | changed (state : State Session) {handle : Handle} {before after : Session}
      (known : state.channels[handle]? = some before)
      (change : before.Change state.clock (direct ∨ handle ∈ state.registry.handles) after) :
      Move direct mappable state (state.put handle after)
  | mapped (state : State Session) {handle : Handle} {session : Session}
      (permitted : mappable handle) (known : state.channels[handle]? = some session)
      (displaced : ∀ previous other, state.registry.lookup session.identity = some previous →
        state.channels[previous]? = some other → previous = handle ∨ other.link = none) :
      Move direct mappable state
        { state with registry := state.registry.insert session.identity handle }
  | unmapped (state : State Session) {identity : Identity}
      (displaced : ∀ previous other, state.registry.lookup identity = some previous →
        state.channels[previous]? = some other → other.link = none) :
      Move direct mappable state { state with registry := state.registry.erase identity }

abbrev Moves (direct : Prop) (mappable : Handle → Prop) : State Session → State Session → Prop :=
  Relation.ReflTransGen (Move direct mappable)

variable {direct : Prop} {mappable : Handle → Prop}

/-- Repeating what is made of moves is made of moves. -/
theorem moves_foldl {α : Type} (step : State Session → α → State Session) (items : List α)
    (moves : ∀ state, ∀ item ∈ items, Moves direct mappable state (step state item))
    (state : State Session) : Moves direct mappable state (items.foldl step state) := by
  induction items generalizing state with
  | nil => exact .refl
  | cons item rest hypothesis =>
      rw [List.foldl_cons]
      refine (moves state item (by simp)).trans ?_
      exact hypothesis (fun state other member => moves state other (by simp [member])) _

/-- The same with something reported on the way. -/
theorem moves_foldl_fst {α β : Type} (step : State Session × β → α → State Session × β)
    (items : List α)
    (moves : ∀ pair, ∀ item ∈ items, Moves direct mappable pair.1 (step pair item).1)
    (pair : State Session × β) :
    Moves direct mappable pair.1 (items.foldl step pair).1 := by
  induction items generalizing pair with
  | nil => exact .refl
  | cons item rest hypothesis =>
      rw [List.foldl_cons]
      refine (moves pair item (by simp)).trans ?_
      exact hypothesis (fun pair other member => moves pair other (by simp [member])) _

/-! ## Changes of one session -/

theorem moves_put {state : State Session} {handle : Handle} {before after : Session}
    (known : state.channels[handle]? = some before)
    (changes : before.Changes state.clock (direct ∨ handle ∈ state.registry.handles) after) :
    Moves direct mappable state (state.put handle after) := by
  rcases List.getElem?_eq_some_iff.mp known with ⟨bound, -⟩
  induction changes with
  | refl =>
      rw [put_of_getElem? known]
  | @tail middle after earlier change hypothesis =>
      have there : (state.put handle middle).channels[handle]? = some middle := by
        simp [bound]
      have moved : Move direct mappable (state.put handle middle) (state.put handle after) := by
        rw [← put_put handle middle after]
        exact .changed _ there change
      exact hypothesis.tail moved

theorem moves_onChannel {α : Type} {state : State Session} {handle : Handle} {default : α}
    {act : Session → Session × α}
    (changes : ∀ session, state.channels[handle]? = some session →
      session.Changes state.clock (direct ∨ handle ∈ state.registry.handles) (act session).1) :
    Moves direct mappable state (state.onChannel handle default act).1 := by
  simp only [onChannel]
  split
  · exact .refl
  · rename_i session known
    exact moves_put known (changes session known)

theorem close_of_getElem? {state : State Session} {handle : Handle} {session : Session}
    (known : state.channels[handle]? = some session) :
    state.close handle = state.put handle session.close := by
  simp only [close, onChannel]
  rw [known]
  rfl

theorem close_of_none {state : State Session} {handle : Handle}
    (unknown : state.channels[handle]? = none) : state.close handle = state := by
  simp only [close, onChannel]
  rw [unknown]

theorem moves_close (handle : Handle) (state : State Session) :
    Moves direct mappable state (state.close handle) :=
  moves_onChannel fun session _ => session.changes_close

theorem registry_close (handle : Handle) (state : State Session) :
    (state.close handle).registry = state.registry := by
  simp only [close, onChannel]
  split <;> rfl

/-- Closing a session does not depend on what is mapped. -/
theorem close_mapping (handle : Handle) (registry : Registry) (state : State Session) :
    { state with registry := registry }.close handle =
      { state.close handle with registry := registry } := by
  simp only [close, onChannel]
  split <;> rfl

theorem link_of_close {state : State Session} {handle : Handle} {session : Session}
    (known : (state.close handle).channels[handle]? = some session) : session.link = none := by
  cases found : state.channels[handle]? with
  | none =>
      rw [close_of_none found, found] at known
      cases known
  | some other =>
      rcases List.getElem?_eq_some_iff.mp found with ⟨bound, -⟩
      rw [close_of_getElem? found] at known
      simp only [channels_put, List.getElem?_set_self bound, Option.some.injEq] at known
      rw [← known]
      rfl

theorem getElem?_close_of_ne {state : State Session} {one other : Handle}
    (different : one ≠ other) : (state.close one).channels[other]? = state.channels[other]? := by
  cases found : state.channels[one]? with
  | none => rw [close_of_none found]
  | some session => simp [close_of_getElem? found, different]

/-! ## Registration -/

theorem moves_install {handle : Handle} (permitted : mappable handle) (state : State Session) :
    Moves direct mappable state (state.install handle).1 := by
  simp only [install]
  split
  · exact .refl
  · rename_i session known
    split
    · rename_i absent
      refine .single (.mapped state permitted known fun previous other found _ => ?_)
      exact absurd (absent.symm.trans found) (by simp)
    · rename_i previous found
      replace found : state.registry.lookup session.identity = some previous := found
      split
      · rename_i same
        refine .single (.mapped state permitted known fun earlier other lookup _ => .inl ?_)
        rw [found] at lookup
        exact (Option.some.inj lookup).symm.trans same
      · rename_i different
        -- The session displaced is closed first; the state is the same in the end.
        rw [close_mapping]
        refine (moves_close previous state).tail ?_
        rw [← registry_close previous state]
        refine .mapped (state.close previous) permitted
          ((getElem?_close_of_ne different).trans known) fun earlier other lookup there => .inr ?_
        rw [registry_close, found] at lookup
        rw [← Option.some.inj lookup] at there
        exact link_of_close there

theorem moves_remove (identity : Identity) (state : State Session) :
    Moves direct mappable state (state.remove identity).1 := by
  simp only [remove]
  split
  · exact .refl
  · rename_i handle found
    dsimp only
    rw [close_mapping]
    refine (moves_close handle state).tail ?_
    rw [← registry_close handle state]
    refine .unmapped (state.close handle) fun previous other lookup there => ?_
    rw [registry_close, found] at lookup
    rw [← Option.some.inj lookup] at there
    exact link_of_close there

theorem moves_installEach {handles : List Handle}
    (permitted : ∀ handle ∈ handles, mappable handle) (state : State Session) :
    Moves direct mappable state (state.installEach handles) :=
  moves_foldl _ _ (fun state handle member => moves_install (permitted handle member) state) state

theorem moves_removeEach (identities : List Identity) (state : State Session) :
    Moves direct mappable state (state.removeEach identities) :=
  moves_foldl _ _ (fun state identity _ => moves_remove identity state) state

theorem moves_replaceAll {handles : List Handle}
    (permitted : ∀ handle ∈ handles, mappable handle) (state : State Session) :
    Moves direct mappable state (state.replaceAll handles).1 :=
  (moves_installEach permitted state).trans (moves_removeEach _ _)

theorem moves_removeAll (state : State Session) :
    Moves direct mappable state state.removeAll.1 :=
  moves_removeEach _ _

theorem registry_install {handle : Handle} {state : State Session} {session : Session}
    (known : state.channels[handle]? = some session) :
    (state.install handle).1.registry = state.registry.insert session.identity handle := by
  simp only [install]
  rw [known]
  dsimp only
  split
  · rfl
  · split
    · rfl
    · rw [close_mapping]
      rfl

theorem mem_handles_install {handle : Handle} {state : State Session} {session : Session}
    (known : state.channels[handle]? = some session) :
    handle ∈ (state.install handle).1.registry.handles := by
  rw [Registry.mem_handles_iff]
  refine ⟨session.identity, ?_⟩
  rw [registry_install known, Registry.lookup_insert, if_pos rfl]

theorem moves_installOrReplace {handle : Handle} (permitted : mappable handle) (sink : Sink)
    (peer : SocketAddress) (state : State Session) :
    Moves direct mappable state (state.installOrReplace handle sink peer).1 := by
  have installed : Moves direct mappable state (state.install handle).1 :=
    moves_install permitted state
  cases found : state.channels[handle]? with
  | none =>
      have unknown : state.install handle = (state, none) := by
        simp only [install]
        rw [found]
      simp only [installOrReplace, onChannel]
      rw [unknown]
      simp [found, Relation.ReflTransGen.refl]
  | some session =>
      have member := mem_handles_install found
      simp only [installOrReplace]
      have attached : Moves direct mappable (state.install handle).1
          ((state.install handle).1.onChannel handle (.ok ())
            (Channel.attach (state.install handle).1.clock sink peer)).1 :=
        moves_onChannel fun session _ => session.changes_attach sink peer (.inr member)
      split <;> exact installed.trans attached

theorem moves_connectedCount (state : State Session) :
    Moves direct mappable state state.connectedCount.1 := by
  simp only [connectedCount]
  refine moves_foldl_fst _ _ (fun pair handle _ => ?_) (state, 0)
  exact moves_onChannel fun session _ => session.changes_checkLive

/-! ## What only goes out -/

theorem moves_count (bump : Counters → Counters) (state : State Session) :
    Moves direct mappable state (state.count bump) :=
  .single (.aside rfl rfl)

theorem moves_countRefusal (error : ChannelError) (state : State Session) :
    Moves direct mappable state (state.countRefusal error) := by
  simp only [countRefusal]
  split <;> exact moves_count _ _

theorem moves_perform (action : Action) (state : State Session) :
    Moves direct mappable state (state.perform action) := by
  cases action with
  | nothing => exact .refl
  | deliver payload sink =>
      rw [perform_deliver]
      split <;> exact .single (.aside rfl rfl)

theorem moves_passUnhandled (unhandled : Option Sink) (datagram : Bytes)
    (state : State Session) :
    Moves direct mappable state (state.passUnhandled unhandled datagram) := by
  cases unhandled with
  | none => exact .single (.aside rfl rfl)
  | some sink =>
      rw [passUnhandled_some]
      split <;> exact .single (.aside rfl rfl)

theorem moves_dispatch (packet : Transmission) (state : State Session) :
    Moves direct mappable state (state.dispatch packet) := by
  rw [dispatch_eq]
  split <;> exact .single (.aside rfl rfl)

theorem moves_dispatchHeartbeat (packet : Transmission) (report : PassReport)
    (state : State Session) :
    Moves direct mappable state (state.dispatchHeartbeat packet report).1 := by
  rw [dispatchHeartbeat_eq]
  split <;> exact .single (.aside rfl rfl)

/-! ## Packets, reads and heartbeats -/

theorem find?_eq_some_iff {state : State Session} {identity : Identity} {handle : Handle}
    {session : Session} :
    state.find? identity = some (handle, session) ↔
      state.registry.lookup identity = some handle ∧
        state.channels[handle]? = some session := by
  simp only [find?]
  cases state.registry.lookup identity with
  | none => simp
  | some mapped =>
      simp only [Option.map_eq_some_iff, Prod.mk.injEq, Option.some.injEq]
      constructor
      · rintro ⟨_, known, rfl, rfl⟩
        exact ⟨rfl, known⟩
      · rintro ⟨rfl, known⟩
        exact ⟨session, known, rfl, rfl⟩

theorem moves_takePacket (localSink : Sink) (packet : Bytes) (source : SocketAddress)
    (state : State Session) :
    Moves direct mappable state (state.takePacket localSink packet source) := by
  simp only [takePacket]
  refine (moves_count (fun counters => { counters with received := counters.received + 1 })
    state).trans ?_
  split
  · exact moves_count _ _
  · split
    · exact moves_count _ _
    · rename_i handle session found
      rcases find?_eq_some_iff.mp found with ⟨lookup, known⟩
      have member : handle ∈ state.registry.handles :=
        Registry.mem_handles_iff.mpr ⟨_, lookup⟩
      refine Relation.ReflTransGen.trans
        (moves_put known (session.changes_accept localSink source packet (.inr member))) ?_
      split
      · exact moves_perform _ _
      · exact moves_countRefusal _ _

theorem moves_route (unhandled : Option Sink) (datagram : Bytes) (state : State Session) :
    Moves direct mappable state (state.route unhandled datagram) := by
  simp only [route]
  split
  · exact moves_passUnhandled _ _ _
  · rename_i handle session found
    rcases Option.bind_eq_some_iff.mp found with ⟨destination, -, mapped⟩
    rcases find?_eq_some_iff.mp mapped with ⟨-, known⟩
    have checked : session.Changes state.clock (direct ∨ handle ∈ state.registry.handles)
        (session.checkLive state.clock).1 := session.changes_checkLive
    split
    · rename_i gone result
      replace result : session.checkLive state.clock = (gone, false) := result
      rw [result] at checked
      exact (moves_put known checked).trans (moves_passUnhandled _ _ _)
    · rename_i live result
      replace result : session.checkLive state.clock = (live, true) := result
      rw [result] at checked
      refine (moves_put known (checked.trans (live.changes_send datagram))).trans ?_
      split
      · rename_i packet sent
        exact moves_dispatch _ _
      · exact moves_countRefusal _ _

theorem moves_takeRead (unhandled : Option Sink) (bytes : Bytes) (state : State Session) :
    Moves direct mappable state (state.takeRead unhandled bytes) := by
  simp only [takeRead]
  split
  · exact moves_count _ _
  · exact moves_foldl _ _ (fun state datagram _ => moves_route unhandled datagram state) state

theorem moves_takeStream (unhandled : Option Sink) (stopping : Bool) (input : Pipe.Input)
    (state : State Session) :
    Moves direct mappable state (state.takeStream unhandled stopping input).1 := by
  simp only [takeStream]
  split
  · exact .refl
  · exact moves_foldl _ _ (fun state read _ => moves_takeRead unhandled read state) state

theorem moves_visit (handle : Handle) (report : PassReport) (state : State Session) :
    Moves direct mappable state (state.visit handle report).1 := by
  simp only [visit]
  split
  · exact .refl
  · rename_i session known
    have checked : session.Changes state.clock (direct ∨ handle ∈ state.registry.handles)
        (session.checkLive state.clock).1 := session.changes_checkLive
    split
    · rename_i live result
      rw [result] at checked
      simp only [visitConnected]
      split
      · refine Relation.ReflTransGen.trans (moves_put known (checked.trans live.changes_beat)) ?_
        split
        · exact moves_dispatchHeartbeat _ _ _
        · exact moves_countRefusal _ _
      · exact moves_put known checked
    · rename_i gone result
      rw [result] at checked
      split
      · refine Relation.ReflTransGen.trans (moves_put known checked) ?_
        exact .single (.aside rfl rfl)
      · exact moves_put known checked

theorem moves_heartbeatPass (state : State Session) :
    Moves direct mappable state state.heartbeatPass.1 := by
  simp only [heartbeatPass, passOver]
  exact moves_foldl_fst _ _ (fun pair handle _ => moves_visit handle pair.2 pair.1) (state, {})

theorem moves_survey (state : State Session) : Moves direct mappable state state.survey.1 := by
  simp only [survey]
  refine moves_foldl_fst _ _ (fun pair handle _ => ?_) (state, [])
  split
  · exact .refl
  · rename_i session known
    exact moves_put known session.changes_checkLive

/-! ## Reloads -/

theorem moves_addAll (state : State Session) (sessions : List Session)
    (unlinked : ∀ session ∈ sessions, session.link = none) :
    Moves direct mappable state { state with channels := state.channels ++ sessions } := by
  induction sessions generalizing state with
  | nil => rw [List.append_nil]
  | cons session rest hypothesis =>
      have later := hypothesis (state.add session).1
        fun other member => unlinked other (by simp [member])
      simp only [add, List.append_assoc, List.cons_append, List.nil_append] at later
      exact (Relation.ReflTransGen.single (.added state (unlinked session (by simp)))).trans later

theorem link_of_create {record : TunnelRecord} {clock : Clock} {session : Session}
    (created : Session.create record clock = .ok session) : session.link = none := by
  simp only [Session.create] at created
  split at created
  · cases created
  · cases created
    rfl

theorem link_of_mem_sessionsOf {ipv4Pop : Ipv4Address} {clock : Clock}
    {records : List TunnelRecord} {session : Session}
    (member : session ∈ sessionsOf ipv4Pop clock records) : session.link = none := by
  rcases List.mem_filterMap.mp member with ⟨record, -, made⟩
  split at made
  · rename_i created
    cases made
    exact link_of_create created
  · cases made

theorem moves_reload (ipv4Pop : Ipv4Address)
    (loaded : Except DirectoryError (List TunnelRecord)) (state : State Session)
    (permitted : ∀ handle, state.channels.length ≤ handle → mappable handle) :
    Moves direct mappable state (state.reload ipv4Pop loaded).1 := by
  simp only [reload]
  split
  · exact .refl
  · rename_i records
    have added : Moves direct mappable state
        { state with channels := state.channels ++ sessionsOf ipv4Pop state.clock records } :=
      moves_addAll state _ fun session => link_of_mem_sessionsOf
    refine added.trans (moves_replaceAll (fun handle member => permitted handle ?_) _)
    exact (List.mem_range'_1.mp member).1

end TunnelServer.State

namespace TunnelServer

/-! ## Operations -/

namespace SessionOperation

/-- Whether an operation connects a session past the registry and the pumps. -/
def ConnectsDirectly : SessionOperation → Prop
  | .common (.connect _ _ _) => True
  | _ => False

/-- Whether an operation calls a session to connect it or to make it work. -/
def Calls (handle : Handle) : SessionOperation → Prop
  | .common (.connect other _ _) => other = handle
  | .common (.reconnect other _ _) => other = handle
  | .common (.receive other _) => other = handle
  | .common (.send other _) => other = handle
  | .beat other => other = handle
  | _ => False

/-- Whether an operation maps a session that is known already. -/
def Installs (handle : Handle) : SessionOperation → Prop
  | .common (.install other) => other = handle
  | .common (.installOrReplace other _ _) => other = handle
  | .common (.replaceAll handles) => handle ∈ handles
  | _ => False

/-- The sessions that an operation may map: those that it installs and those that it makes. -/
def MayMap (operation : SessionOperation) (state : State Session) (handle : Handle) : Prop :=
  operation.Installs handle ∨ state.channels.length ≤ handle

/-- Every operation is made of moves. -/
theorem moves_apply (link : LocalLink) (state : State Session) (operation : SessionOperation) :
    State.Moves operation.ConnectsDirectly (operation.MayMap state) state
      (operation.apply link state).1 := by
  cases operation with
  | common operation =>
      cases operation with
      | advance nanos => exact .single (.aside rfl rfl)
      | outages present => exact .single (.aside rfl rfl)
      | connect handle sink peer =>
          exact State.moves_onChannel fun session _ =>
            session.changes_connect sink peer (.inl trivial)
      | reconnect handle sink peer =>
          exact State.moves_onChannel fun session _ => session.changes_reconnect sink peer
      | close handle => exact State.moves_close handle state
      | checkLive handle =>
          exact State.moves_onChannel fun session _ => session.changes_checkLive
      | receive handle packet =>
          exact State.moves_onChannel fun session _ => session.changes_receive packet
      | send handle datagram =>
          simp only [apply, Operation.apply]
          split
          · exact .refl
          · rename_i session known
            exact State.moves_put known (session.changes_send datagram)
      | install handle => exact State.moves_install (.inl rfl) state
      | installOrReplace handle sink peer =>
          exact State.moves_installOrReplace (.inl rfl) sink peer state
      | remove identity => exact State.moves_remove identity state
      | replaceAll handles =>
          exact State.moves_replaceAll (fun handle member => .inl member) state
      | connectedCount => exact State.moves_connectedCount state
      | removeAll => exact State.moves_removeAll state
      | packet bytes source => exact State.moves_takePacket link.sink bytes source state
      | localRead bytes => exact State.moves_takeRead link.unhandled bytes state
      | localStream stopping input =>
          exact State.moves_takeStream link.unhandled stopping input state
  | create record =>
      simp only [apply]
      split
      · exact .refl
      · rename_i session created
        exact .single (.added state (State.link_of_create created))
  | beat handle =>
      simp only [apply]
      split
      · exact .refl
      · rename_i session known
        exact State.moves_put known session.changes_beat
  | heartbeatPass => exact State.moves_heartbeatPass state
  | survey => exact State.moves_survey state
  | reload ipv4Pop loaded =>
      exact State.moves_reload ipv4Pop loaded state fun handle new => .inr new

end SessionOperation

end TunnelServer
