import Mathlib.Data.List.Forall2
import TunnelServer.Proofs.Run.Move
import TunnelServer.Proofs.Session.Reception
import TunnelServer.Proofs.Splitting

/-!
# Where local datagrams go

A local read that is no row of whole datagrams is counted and has no other effect.  Of a row, each
datagram in turn is sent through the tunnel that serves its destination, refused if it is too large
for that tunnel, or passed on if there is no such tunnel.  What one datagram does is laid down as a
relation between the states before and after it, which leaves nothing of either open; the server is
shown to go by it.
-/

namespace TunnelServer

namespace Session

variable {session : Session} {link : Link} {datagram : Bytes}

theorem send_of_fits (clock : Clock) (linked : session.link = some link)
    (fits : datagram.length ≤ session.profile.mtu) :
    session.send clock datagram =
      ({ session with lastSent := clock.now },
        .ok ⟨link.peer, Packet.encode (.forward session.identity clock.epoch)
          session.profile.key datagram⟩) := by
  simp only [send, pack, if_neg (Nat.not_lt.mpr fits), linked]

theorem send_of_large (clock : Clock) (large : session.profile.mtu < datagram.length) :
    session.send clock datagram =
      (session, .error (.payloadTooLarge datagram.length session.profile.mtu)) := by
  simp only [send, if_pos large]

end Session

namespace State

/-- A session serves an identity: it is mapped to it, and it has a peer that has not been silent for
longer than its heartbeat interval and ten seconds. -/
structure Serves (state : State Session) (identity : Identity) (handle : Handle)
    (session : Session) (link : Link) : Prop where
  mapped : state.registry.lookup identity = some handle
  known : state.channels[handle]? = some session
  linked : session.link = some link
  heard : state.clock.now - session.lastReceived ≤
    session.profile.heartbeatInterval + 10 * 1000000000

/-- The state in which the session mapped to an identity, if there is one, has lost its link. -/
def unlinkAt (identity : Identity) (state : State Session) : State Session :=
  match state.find? identity with
  | none => state
  | some (handle, session) =>
    { state with channels := state.channels.set handle { session with link := none } }

/-- What a datagram for an identity does to a server. -/
inductive Handles (unhandled : Option Sink) (identity : Identity) (datagram : Bytes)
    (before : State Session) : State Session → Prop where
  | rejected {handle : Handle} {session : Session} {link : Link}
      (serves : before.Serves identity handle session link)
      (large : session.profile.mtu < datagram.length) :
      Handles unhandled identity datagram before
        (before.count fun counters => { counters with rejected := counters.rejected + 1 })
  | sent {handle : Handle} {session : Session} {link : Link}
      (serves : before.Serves identity handle session link)
      (fits : datagram.length ≤ session.profile.mtu)
      (up : link.peer ∉ before.outages.peers) :
      Handles unhandled identity datagram before
        (count (fun counters => { counters with sent := counters.sent + 1 })
          { before with
            channels := before.channels.set handle { session with lastSent := before.clock.now }
            sent := before.sent ++ [⟨link.peer, Packet.encode
              (.forward session.identity before.clock.epoch) session.profile.key datagram⟩] })
  | unsent {handle : Handle} {session : Session} {link : Link}
      (serves : before.Serves identity handle session link)
      (fits : datagram.length ≤ session.profile.mtu)
      (down : link.peer ∈ before.outages.peers) :
      Handles unhandled identity datagram before
        (count (fun counters => { counters with sendErrors := counters.sendErrors + 1 })
          { before with
            channels := before.channels.set handle { session with lastSent := before.clock.now } })
  | dropped (unserved : ∀ handle session link, ¬before.Serves identity handle session link)
      (nowhere : unhandled = none) :
      Handles unhandled identity datagram before
        ((before.unlinkAt identity).count fun counters =>
          { counters with noRouteDrops := counters.noRouteDrops + 1 })
  | passed {sink : Sink}
      (unserved : ∀ handle session link, ¬before.Serves identity handle session link)
      (there : unhandled = some sink) (up : sink ∉ before.outages.sinks) :
      Handles unhandled identity datagram before
        (count (fun counters => { counters with passedUnhandled := counters.passedUnhandled + 1 })
          { before.unlinkAt identity with written := before.written ++ [⟨sink, datagram⟩] })
  | unpassed {sink : Sink}
      (unserved : ∀ handle session link, ¬before.Serves identity handle session link)
      (there : unhandled = some sink) (down : sink ∈ before.outages.sinks) :
      Handles unhandled identity datagram before
        ((before.unlinkAt identity).count fun counters =>
          { counters with sinkErrors := counters.sinkErrors + 1 })

/-- What datagrams do to a server one after the other, each by the destination in its header. -/
inductive HandlesEach (unhandled : Option Sink) :
    List Bytes → State Session → State Session → Prop where
  | nil (state : State Session) : HandlesEach unhandled [] state state
  | cons {identity : Identity} {datagram : Bytes} {rest : List Bytes}
      {before between after : State Session}
      (addressed : identity.octets = (datagram.drop 24).take 16)
      (first : before.Handles unhandled identity datagram between)
      (later : HandlesEach unhandled rest between after) :
      HandlesEach unhandled (datagram :: rest) before after

variable {state before after : State Session} {identity : Identity} {handle : Handle}
variable {session : Session} {link : Link} {unhandled : Option Sink} {datagram : Bytes}

/-! ## Finding the tunnel -/

theorem destination?_of_long (long : Datagram.headerLength ≤ datagram.length) :
    ∃ identity, Datagram.destination? datagram = some identity ∧
      identity.octets = (datagram.drop 24).take 16 := by
  have enough : 16 ≤ (datagram.drop 24).length := by
    simp only [Datagram.headerLength] at long
    rw [List.length_drop]
    omega
  exact ⟨_, dif_pos enough, rfl⟩

theorem Serves.isLive (serves : state.Serves identity handle session link) :
    session.isLive state.clock = true := by
  have heard := serves.heard
  simpa [Session.isLive, serves.linked, Session.silence, Profile.patience, Profile.graceSeconds,
    Epoch.nanosPerSecond] using heard

theorem serves_of_isLive (mapped : state.registry.lookup identity = some handle)
    (known : state.channels[handle]? = some session) (live : session.isLive state.clock = true) :
    ∃ link, state.Serves identity handle session link := by
  simp only [Session.isLive, Bool.and_eq_true, decide_eq_true_eq] at live
  rcases live with ⟨linked, heard⟩
  rcases Option.isSome_iff_exists.mp linked with ⟨link, present⟩
  exact ⟨link, mapped, known, present, heard⟩

/-! ## One datagram -/

theorem route_of_serves (destination : Datagram.destination? datagram = some identity)
    (serves : state.Serves identity handle session link) :
    state.route unhandled datagram =
      match (session.send state.clock datagram).2 with
      | .ok packet => (state.put handle (session.send state.clock datagram).1).dispatch packet
      | .error error =>
        (state.put handle (session.send state.clock datagram).1).countRefusal error := by
  have found : state.find? identity = some (handle, session) :=
    find?_eq_some_iff.mpr ⟨serves.mapped, serves.known⟩
  have checked : Channel.checkLive state.clock session = (session, true) :=
    Session.checkLive_of_isLive serves.isLive
  simp only [route, destination, Option.bind_eq_bind, Option.bind_some, found, checked]
  rfl

theorem route_of_unserved (destination : Datagram.destination? datagram = some identity)
    (unserved : ∀ handle session link, ¬state.Serves identity handle session link) :
    state.route unhandled datagram =
      (state.unlinkAt identity).passUnhandled unhandled datagram := by
  simp only [route, destination, Option.bind_eq_bind, Option.bind_some, unlinkAt]
  cases found : state.find? identity with
  | none => rfl
  | some pair =>
      rcases pair with ⟨handle, session⟩
      rcases find?_eq_some_iff.mp found with ⟨mapped, known⟩
      have gone : session.isLive state.clock = false := by
        apply Bool.eq_false_iff.mpr
        intro live
        rcases serves_of_isLive mapped known live with ⟨link, serves⟩
        exact unserved handle session link serves
      have checked : Channel.checkLive state.clock session = (session.close, false) :=
        Session.checkLive_of_not_isLive gone
      simp only [checked]
      rfl

@[simp]
theorem outages_unlinkAt (identity : Identity) (state : State Session) :
    (state.unlinkAt identity).outages = state.outages := by
  simp only [unlinkAt]
  split <;> rfl

@[simp]
theorem counters_unlinkAt (identity : Identity) (state : State Session) :
    (state.unlinkAt identity).counters = state.counters := by
  simp only [unlinkAt]
  split <;> rfl

@[simp]
theorem written_unlinkAt (identity : Identity) (state : State Session) :
    (state.unlinkAt identity).written = state.written := by
  simp only [unlinkAt]
  split <;> rfl

theorem handles_of_serves (destination : Datagram.destination? datagram = some identity)
    (serves : state.Serves identity handle session link) :
    state.Handles unhandled identity datagram (state.route unhandled datagram) := by
  rw [route_of_serves destination serves]
  by_cases large : session.profile.mtu < datagram.length
  · rw [Session.send_of_large _ large]
    dsimp only
    rw [put_of_getElem? serves.known]
    exact .rejected serves large
  · have fits := Nat.not_lt.mp large
    rw [Session.send_of_fits _ serves.linked fits]
    dsimp only
    rw [dispatch_eq]
    split
    · rename_i down
      exact .unsent serves fits down
    · rename_i up
      exact .sent serves fits up

theorem handles_of_unserved (destination : Datagram.destination? datagram = some identity)
    (unserved : ∀ handle session link, ¬state.Serves identity handle session link) :
    state.Handles unhandled identity datagram (state.route unhandled datagram) := by
  rw [route_of_unserved destination unserved]
  cases unhandled with
  | none => exact .dropped unserved rfl
  | some sink =>
      rw [passUnhandled_some, written_unlinkAt]
      split
      · rename_i down
        rw [outages_unlinkAt] at down
        exact .unpassed unserved rfl down
      · rename_i up
        rw [outages_unlinkAt] at up
        exact .passed unserved rfl up

theorem handles_route (destination : Datagram.destination? datagram = some identity) :
    state.Handles unhandled identity datagram (state.route unhandled datagram) := by
  by_cases served : ∃ handle session link, state.Serves identity handle session link
  · rcases served with ⟨handle, session, link, serves⟩
    exact handles_of_serves destination serves
  · apply handles_of_unserved destination
    intro handle session link serves
    exact served ⟨handle, session, link, serves⟩

/-! ## One read -/

theorem handlesEach_foldl (unhandled : Option Sink) {datagrams : List Bytes}
    (whole : ∀ datagram ∈ datagrams, Datagram.IsWhole datagram) (state : State Session) :
    HandlesEach unhandled datagrams state
      (datagrams.foldl (fun state datagram => state.route unhandled datagram) state) := by
  induction datagrams generalizing state with
  | nil => exact .nil state
  | cons datagram rest hypothesis =>
      have first : Datagram.IsWhole datagram := whole datagram (by simp)
      rcases destination?_of_long (Datagram.headerLength_le_of_isWhole first) with
        ⟨identity, destination, addressed⟩
      refine .cons addressed (handles_route destination) (hypothesis ?_ _)
      intro later member
      exact whole later (by simp [member])

theorem takeRead_of_isRow {datagrams : List Bytes} {bytes : Bytes}
    (row : Datagram.IsRow datagrams bytes) (state : State Session) :
    state.takeRead unhandled bytes =
      datagrams.foldl (fun state datagram => state.route unhandled datagram) state := by
  simp only [takeRead, Datagram.split_eq_ok_iff.mpr row]

theorem takeRead_of_not_isRow {bytes : Bytes}
    (unframed : ¬∃ datagrams, Datagram.IsRow datagrams bytes) (state : State Session) :
    state.takeRead unhandled bytes =
      state.count fun counters => { counters with framingErrors := counters.framingErrors + 1 } := by
  simp only [takeRead]
  split
  · rfl
  · rename_i datagrams cut
    exact absurd ⟨datagrams, Datagram.isRow_of_split cut⟩ unframed

end State

/-- How many local datagrams have been dealt with in one way or another. -/
def Counters.datagrams (counters : Counters) : Nat :=
  counters.sent + counters.sendErrors + counters.rejected + counters.passedUnhandled +
    counters.sinkErrors + counters.noRouteDrops

namespace State

variable {before after : State Session} {identity : Identity} {unhandled : Option Sink}
variable {datagram : Bytes} {datagrams : List Bytes}

theorem Handles.counted (handles : before.Handles unhandled identity datagram after) :
    after.counters.datagrams = before.counters.datagrams + 1 ∧
      after.counters.stateErrors = before.counters.stateErrors := by
  refine ⟨?_, by cases handles <;> simp⟩
  cases handles with
  | rejected serves large => simp only [Counters.datagrams, counters_count]; omega
  | sent serves fits up => simp only [Counters.datagrams, counters_count]; omega
  | unsent serves fits down => simp only [Counters.datagrams, counters_count]; omega
  | dropped unserved nowhere =>
      simp only [Counters.datagrams, counters_count, counters_unlinkAt]
      omega
  | passed unserved there up =>
      simp only [Counters.datagrams, counters_count, counters_unlinkAt]
      omega
  | unpassed unserved there down =>
      simp only [Counters.datagrams, counters_count, counters_unlinkAt]
      omega

theorem HandlesEach.counted (handles : HandlesEach unhandled datagrams before after) :
    after.counters.datagrams = before.counters.datagrams + datagrams.length ∧
      after.counters.stateErrors = before.counters.stateErrors := by
  induction handles with
  | nil => simp
  | cons addressed first later hypothesis =>
      rcases first.counted with ⟨one, none⟩
      rcases hypothesis with ⟨others, noOthers⟩
      rw [List.length_cons]
      exact ⟨by omega, noOthers.trans none⟩

/-! ## What is sent -/

/-- The profiles of all sessions, in the order of their handles. -/
def profiles (state : State Session) : List Profile := state.channels.map Session.profile

/-- A datagram goes in a packet through the tunnel that its destination is mapped to. -/
inductive GoesIn (state : State Session) (datagram : Bytes) (packet : Transmission) : Prop where
  | intro (identity : Identity) (handle : Handle) (profile : Profile)
      (addressed : identity.octets = (datagram.drop 24).take 16)
      (mapped : state.registry.lookup identity = some handle)
      (known : state.profiles[handle]? = some profile)
      (encoded : packet.bytes =
        Packet.encode (.forward profile.identity state.clock.epoch) profile.key datagram)

/-- What a datagram leaves as it was. -/
structure SameTunnels (before after : State Session) : Prop where
  registry : after.registry = before.registry
  profiles : after.profiles = before.profiles
  clock : after.clock = before.clock

theorem GoesIn.of_sameTunnels {packet : Transmission} (same : before.SameTunnels after)
    (goes : after.GoesIn datagram packet) : before.GoesIn datagram packet := by
  rcases goes with ⟨identity, handle, profile, addressed, mapped, known, encoded⟩
  rw [same.registry] at mapped
  rw [same.profiles] at known
  rw [same.clock] at encoded
  exact ⟨identity, handle, profile, addressed, mapped, known, encoded⟩

theorem profiles_set {state : State Session} {handle : Handle} {session changed : Session}
    (known : state.channels[handle]? = some session)
    (same : changed.profile = session.profile) :
    (state.channels.set handle changed).map Session.profile = state.profiles := by
  rcases List.getElem?_eq_some_iff.mp known with ⟨bound, rfl⟩
  rw [List.map_set, same, profiles]
  apply List.ext_getElem?
  intro index
  rw [List.getElem?_set]
  split
  · rename_i equal
    subst equal
    simp [bound]
  · rfl

theorem sameTunnels_unlinkAt (identity : Identity) (state : State Session) :
    state.SameTunnels (state.unlinkAt identity) := by
  simp only [unlinkAt]
  split
  · exact ⟨rfl, rfl, rfl⟩
  · rename_i handle session found
    exact ⟨rfl, profiles_set (find?_eq_some_iff.mp found).2 rfl, rfl⟩

theorem sent_unlinkAt (identity : Identity) (state : State Session) :
    (state.unlinkAt identity).sent = state.sent := by
  simp only [unlinkAt]
  split <;> rfl

theorem Handles.sameTunnels (handles : before.Handles unhandled identity datagram after) :
    before.SameTunnels after := by
  have unlinked := sameTunnels_unlinkAt identity before
  cases handles with
  | rejected serves large => exact ⟨rfl, rfl, rfl⟩
  | sent serves fits up => exact ⟨rfl, profiles_set serves.known rfl, rfl⟩
  | unsent serves fits down => exact ⟨rfl, profiles_set serves.known rfl, rfl⟩
  | dropped unserved nowhere => exact ⟨unlinked.registry, unlinked.profiles, unlinked.clock⟩
  | passed unserved there up => exact ⟨unlinked.registry, unlinked.profiles, unlinked.clock⟩
  | unpassed unserved there down => exact ⟨unlinked.registry, unlinked.profiles, unlinked.clock⟩

theorem Handles.sends (addressed : identity.octets = (datagram.drop 24).take 16)
    (handles : before.Handles unhandled identity datagram after) :
    after.sent = before.sent ∨
      ∃ packet, after.sent = before.sent ++ [packet] ∧ before.GoesIn datagram packet := by
  cases handles with
  | rejected serves large => exact .inl rfl
  | @sent handle session link serves fits up =>
      have known : before.profiles[handle]? = some session.profile := by
        simp [profiles, serves.known]
      exact .inr ⟨_, rfl, identity, handle, session.profile, addressed, serves.mapped, known, rfl⟩
  | unsent serves fits down => exact .inl rfl
  | dropped unserved nowhere => exact .inl (sent_unlinkAt identity before)
  | passed unserved there up => exact .inl (sent_unlinkAt identity before)
  | unpassed unserved there down => exact .inl (sent_unlinkAt identity before)

/-- The packets that a row of datagrams makes the server send hold some of them, in order. -/
theorem HandlesEach.sends (handles : HandlesEach unhandled datagrams before after) :
    ∃ carried packets, carried.Sublist datagrams ∧ after.sent = before.sent ++ packets ∧
      List.Forall₂ before.GoesIn carried packets := by
  induction handles with
  | nil => exact ⟨[], [], .slnil, by simp, .nil⟩
  | @cons identity datagram rest before between after addressed first later hypothesis =>
      rcases hypothesis with ⟨carried, packets, ordered, appended, each⟩
      have earlier : List.Forall₂ before.GoesIn carried packets := by
        apply each.imp
        intro datagram packet goes
        exact goes.of_sameTunnels first.sameTunnels
      rcases first.sends addressed with quiet | ⟨packet, sent, goes⟩
      · rw [quiet] at appended
        exact ⟨carried, packets, ordered.cons datagram, appended, earlier⟩
      · rw [sent, List.append_assoc] at appended
        exact ⟨datagram :: carried, packet :: packets, ordered.cons_cons datagram, appended,
          .cons goes earlier⟩

end State

/-- A read that is no row of whole datagrams adds one to the framing errors and changes nothing else.
Of a row, the datagrams are dealt with in order: each goes in one packet to the peer of the session
that serves its destination, or is refused if it is larger than that session lets through, or goes to
the sink for unhandled ones, or is dropped; a session that is addressed without serving has no link
afterwards, and no other session changes.  Each datagram is counted once. -/
theorem takeRead_handles_each (unhandled : Option Sink) (bytes : Bytes) (state : State Session) :
    ((¬∃ datagrams, Datagram.IsRow datagrams bytes) →
        state.takeRead unhandled bytes = { state with counters := { state.counters with
          framingErrors := state.counters.framingErrors + 1 } }) ∧
      (∀ datagrams, Datagram.IsRow datagrams bytes →
        let after := state.takeRead unhandled bytes
        State.HandlesEach unhandled datagrams state after ∧
          after.counters.datagrams = state.counters.datagrams + datagrams.length ∧
          after.counters.stateErrors = state.counters.stateErrors) := by
  refine ⟨fun unframed => State.takeRead_of_not_isRow unframed state, ?_⟩
  intro datagrams row after
  have handles : State.HandlesEach unhandled datagrams state after := by
    simp only [after, State.takeRead_of_isRow row]
    exact State.handlesEach_foldl unhandled row.whole state
  exact ⟨handles, handles.counted⟩

end TunnelServer
