import TunnelServer.Proofs.Run.Replacement
import TunnelServer.Proofs.Run.Seats

/-!
# What a read does

A read deals with its datagrams one after the other.  Each of them concerns the session that is mapped
to its destination and no other: that session is checked, and if it is live and lets the datagram
through, it packs it.  Dealing with one datagram changes neither which sessions are live nor who their
peers are, so which packets a read packs can be told from the state that it finds.  They are sent in
order, but for packets whose peers are down, which are counted instead.
-/

namespace TunnelServer

namespace Datagram

/-- The datagrams whose destination is an identity. -/
def destinedFor (identity : Identity) (datagrams : List Bytes) : List Bytes :=
  datagrams.filter fun datagram => destination? datagram = some identity

/-- The datagrams that a read falls into, if it does. -/
def rowOf (bytes : Bytes) : List Bytes :=
  match split bytes with
  | .ok datagrams => datagrams
  | .error _ => []

end Datagram

namespace Session

/-- What a datagram that is to go through its tunnel leaves of a session. -/
def carry (clock : Clock) (datagram : Bytes) (session : Session) : Session :=
  if session.isLive clock then (session.send clock datagram).1 else session.close

/-- What a row of such datagrams leaves of a session. -/
def carryEach (clock : Clock) (datagrams : List Bytes) (session : Session) : Session :=
  datagrams.foldl (fun session datagram => session.carry clock datagram) session

/-- The packet that a session packs a datagram in, if it is live and lets the datagram through. -/
def packet? (clock : Clock) (datagram : Bytes) (session : Session) : Option Transmission :=
  if session.isLive clock then (session.send clock datagram).2.toOption else none

end Session

namespace State

/-- The packet that a datagram goes in, with the session that packs it. -/
def carried? (datagram : Bytes) (state : State Session) : Option (Handle × Transmission) := do
  let (handle, session) ← Datagram.destination? datagram >>= state.find?
  let packet ← session.packet? state.clock datagram
  return (handle, packet)

/-- A step sends those of some packets whose peers are up, in order, and counts the others. -/
structure Sends (packets : List Transmission) (before after : State Session) : Prop where
  sent : after.sent =
    before.sent ++ packets.filter fun packet => packet.peer ∉ before.outages.peers
  failed : after.counters.sendErrors =
    before.counters.sendErrors + packets.countP fun packet => packet.peer ∈ before.outages.peers

/-- Some datagrams are dealt with in order: each mapped session carries those for its tunnel, and the
packets that they are packed in are sent. -/
structure Carries (datagrams : List Bytes) (before after : State Session) : Prop where
  rests : before.Rests after
  outages : after.outages = before.outages
  sends : before.Sends ((datagrams.filterMap before.carried?).map Prod.snd) after
  mapped : ∀ identity handle session, before.registry.lookup identity = some handle →
    before.channels[handle]? = some session →
      after.channels[handle]? =
        some (session.carryEach before.clock (Datagram.destinedFor identity datagrams))

/-- What no local datagram changes about a server: which peers and sinks fail, and the count of
timeouts. -/
def standing (state : State Session) : Outages × Nat := (state.outages, state.counters.timeouts)

end State

theorem Datagram.rowOf_of_isRow {datagrams : List Bytes} {bytes : Bytes}
    (row : IsRow datagrams bytes) : rowOf bytes = datagrams := by
  rw [rowOf, split_eq_ok_iff.mpr row]

/-! ## One session -/

namespace Session

variable {clock : Clock} {session rested : Session} {datagram : Bytes}

theorem rests_carry (clock : Clock) (datagram : Bytes) (session : Session) :
    session.Rests clock (session.carry clock datagram) := by
  cases live : session.isLive clock with
  | true =>
      simp only [carry, live, if_true]
      exact session.rests_send clock datagram
  | false =>
      simp only [carry, live, Bool.false_eq_true, if_false]
      exact ⟨rfl, rfl, .inr ⟨live, rfl⟩⟩

theorem Rests.isLive_eq (rests : session.Rests clock rested) :
    rested.isLive clock = session.isLive clock := by
  rcases rests.link with kept | ⟨gone, lost⟩
  · rw [Session.isLive_eq, Session.isLive_eq, kept, rests.heard, rests.profile]
  · rw [gone, Session.isLive_eq, lost]
    rfl

theorem packet?_of_rests (rests : session.Rests clock rested) (datagram : Bytes) :
    rested.packet? clock datagram = session.packet? clock datagram := by
  rw [packet?, packet?, rests.isLive_eq]
  cases live : session.isLive clock with
  | false => rfl
  | true =>
      rcases Option.isSome_iff_exists.mp (Bool.and_eq_true_iff.mp live).1 with ⟨link, linked⟩
      have kept : rested.link = some link := by
        rcases rests.link with kept | ⟨gone, -⟩
        · exact kept.trans linked
        · cases live.symm.trans gone
      by_cases large : session.profile.mtu < datagram.length
      · rw [send_of_large clock large, send_of_large clock (by rwa [rests.profile]), rests.profile]
      · have fits := Nat.not_lt.mp large
        rw [send_of_fits clock linked fits, send_of_fits clock kept (by rwa [rests.profile]),
          identity, rests.profile]
        rfl

/-- What a live session makes of a datagram: if it packs it, it sends now, and else it stays as it is. -/
theorem carry_of_isLive (live : session.isLive clock = true) (datagram : Bytes) :
    session.carry clock datagram =
      if (session.packet? clock datagram).isSome then { session with lastSent := clock.now }
      else session := by
  simp only [carry, packet?, live, if_true]
  rcases Option.isSome_iff_exists.mp (Bool.and_eq_true_iff.mp live).1 with ⟨link, linked⟩
  by_cases large : session.profile.mtu < datagram.length
  · rw [send_of_large clock large]
    rfl
  · rw [send_of_fits clock linked (Nat.not_lt.mp large)]
    rfl

theorem carryEach_of_isLive (live : session.isLive clock = true) (datagrams : List Bytes) :
    session.carryEach clock datagrams =
      if datagrams.any fun datagram => (session.packet? clock datagram).isSome then
        { session with lastSent := clock.now }
      else session := by
  induction datagrams generalizing session with
  | nil => rfl
  | cons datagram rest hypothesis =>
      have rests := session.rests_carry clock datagram
      have alive := rests.isLive_eq.trans live
      have later := hypothesis alive
      simp only [packet?_of_rests rests] at later
      change (session.carry clock datagram).carryEach clock rest = _
      rw [later, carry_of_isLive live datagram, List.any_cons]
      cases (session.packet? clock datagram).isSome with
      | true => simp
      | false => simp

theorem carryEach_of_not_isLive (gone : session.isLive clock = false) {datagrams : List Bytes}
    (some : datagrams ≠ []) : session.carryEach clock datagrams = session.close := by
  have closed : ∀ datagram : Bytes, session.close.carry clock datagram = session.close := by
    intro datagram
    have unlinked : session.close.isLive clock = false := rfl
    simp only [carry, unlinked, Bool.false_eq_true, if_false]
    rfl
  have first : ∀ datagram : Bytes, session.carry clock datagram = session.close := by
    intro datagram
    simp only [carry, gone, Bool.false_eq_true, if_false]
  cases datagrams with
  | nil => exact absurd rfl some
  | cons datagram rest =>
      change (session.carry clock datagram).carryEach clock rest = _
      rw [first]
      induction rest with
      | nil => rfl
      | cons other rest hypothesis =>
          change (session.close.carry clock other).carryEach clock rest = _
          rw [closed]
          exact hypothesis (List.cons_ne_nil datagram rest)

end Session

namespace State

variable {state before between after : State Session} {handle : Handle} {session : Session}
variable {identity : Identity} {packet : Transmission} {packets first second : List Transmission}
variable {unhandled : Option Sink} {datagram : Bytes} {datagrams : List Bytes}

/-! ## One datagram -/

theorem channels_passUnhandled (unhandled : Option Sink) (datagram : Bytes)
    (state : State Session) : (state.passUnhandled unhandled datagram).channels = state.channels := by
  cases unhandled with
  | none => rfl
  | some sink =>
      rw [passUnhandled_some]
      split <;> rfl

theorem channels_dispatch (packet : Transmission) (state : State Session) :
    (state.dispatch packet).channels = state.channels := by
  rw [dispatch_eq]
  split <;> rfl

theorem channels_countRefusal (error : ChannelError) (state : State Session) :
    (state.countRefusal error).channels = state.channels := by
  simp only [countRefusal]
  split <;> rfl

/-- A datagram concerns the session that is mapped to its destination. -/
theorem channels_route_of_find? (destination : Datagram.destination? datagram = some identity)
    (found : state.find? identity = some (handle, session)) :
    (state.route unhandled datagram).channels =
      state.channels.set handle (session.carry state.clock datagram) := by
  simp only [route, destination, Option.bind_eq_bind, Option.bind_some, found, Channel.checkLive,
    Channel.send, Session.carry]
  cases live : session.isLive state.clock with
  | true =>
      simp only [Session.checkLive_of_isLive live, if_true]
      split
      · rw [channels_dispatch, channels_put]
      · rw [channels_countRefusal, channels_put]
  | false =>
      simp only [Session.checkLive_of_not_isLive live, Bool.false_eq_true, if_false]
      rw [channels_passUnhandled, channels_put]

theorem getElem?_route_of_destined (unhandled : Option Sink)
    (destination : Datagram.destination? datagram = some identity)
    (mapped : state.registry.lookup identity = some handle)
    (known : state.channels[handle]? = some session) :
    (state.route unhandled datagram).channels[handle]? =
      some (session.carry state.clock datagram) := by
  rcases List.getElem?_eq_some_iff.mp known with ⟨bound, -⟩
  have found := find?_eq_some_iff.mpr ⟨mapped, known⟩
  rw [channels_route_of_find? destination found, List.getElem?_set_self bound]

theorem getElem?_route_of_elsewhere
    (elsewhere : ∀ destination, Datagram.destination? datagram = some destination →
      state.registry.lookup destination ≠ some handle) :
    (state.route unhandled datagram).channels[handle]? = state.channels[handle]? := by
  cases found : Datagram.destination? datagram >>= state.find? with
  | none =>
      simp only [route, found]
      rw [channels_passUnhandled]
  | some taker =>
      rcases Option.bind_eq_some_iff.mp found with ⟨destination, addressed, taken⟩
      have different : taker.1 ≠ handle := by
        rintro rfl
        exact elsewhere destination addressed (find?_eq_some_iff.mp taken).1
      rw [channels_route_of_find? addressed taken, List.getElem?_set_ne different]

theorem carried?_eq_some_iff :
    state.carried? datagram = some (handle, packet) ↔
      ∃ identity session, Datagram.destination? datagram = some identity ∧
        state.registry.lookup identity = some handle ∧
        state.channels[handle]? = some session ∧
        session.packet? state.clock datagram = some packet := by
  simp only [carried?, Option.bind_eq_bind, Option.bind_eq_some_iff, Option.pure_def,
    Option.some.injEq, Prod.mk.injEq, Prod.exists, find?_eq_some_iff]
  constructor
  · rintro ⟨taker, session, ⟨identity, destination, mapped, known⟩, _, packed, rfl, rfl⟩
    exact ⟨identity, session, destination, mapped, known, packed⟩
  · rintro ⟨identity, session, destination, mapped, known, packed⟩
    exact ⟨handle, session, ⟨identity, destination, mapped, known⟩, packet, packed, rfl, rfl⟩

/-- A step that lets every session rest leaves open to datagrams what was open before. -/
theorem carried?_of_rests (rests : before.Rests after) (datagram : Bytes) :
    after.carried? datagram = before.carried? datagram := by
  have profiles := rests.sameTunnels.profiles
  apply Option.ext
  rintro ⟨handle, packet⟩
  rw [carried?_eq_some_iff, carried?_eq_some_iff, rests.registry, rests.clock]
  apply exists_congr
  intro identity
  cases known : before.channels[handle]? with
  | none => simp [unknown_of_profiles profiles known]
  | some session =>
      rcases rests.sessions handle session known with ⟨rested, found, rest⟩
      simp [found, Session.packet?_of_rests rest]

theorem standing_route (unhandled : Option Sink) (datagram : Bytes) (state : State Session) :
    (state.route unhandled datagram).standing = state.standing := by
  have passed : ∀ state : State Session,
      (state.passUnhandled unhandled datagram).standing = state.standing := by
    intro state
    cases unhandled with
    | none => rfl
    | some sink =>
        rw [passUnhandled_some]
        split <;> rfl
  simp only [route]
  split
  · exact passed state
  · split
    · exact passed _
    · split
      · rw [dispatch_eq]
        split <;> rfl
      · simp only [countRefusal]
        split <;> rfl

/-! ## What is sent -/

namespace Sends

theorem nothing (sent : after.sent = before.sent)
    (failed : after.counters.sendErrors = before.counters.sendErrors) : Sends [] before after := by
  refine ⟨?_, failed⟩
  rw [sent, List.filter_nil, List.append_nil]

theorem of_aside (same : after.aside = before.aside) : Sends [] before after := by
  have sent : after.aside.sent = before.aside.sent := congrArg State.sent same
  have failed : after.aside.counters.sendErrors = before.aside.counters.sendErrors :=
    congrArg (fun state => state.counters.sendErrors) same
  exact nothing sent failed

theorem append (one : Sends first before between) (outages : between.outages = before.outages)
    (other : Sends second between after) : Sends (first ++ second) before after := by
  refine ⟨?_, ?_⟩
  · rw [other.sent, one.sent, outages, List.filter_append, List.append_assoc]
  · rw [other.failed, one.failed, outages, List.countP_append, Nat.add_assoc]

theorem of_put (sends : Sends packets (before.put handle session) after) :
    Sends packets before after :=
  ⟨sends.sent, sends.failed⟩

end Sends

theorem sends_dispatch (packet : Transmission) (state : State Session) :
    Sends [packet] state (state.dispatch packet) := by
  rw [dispatch_eq]
  by_cases down : packet.peer ∈ state.outages.peers
  · rw [if_pos down]
    refine ⟨?_, ?_⟩
    · simp [down, count]
    · simp [down]
  · rw [if_neg down]
    refine ⟨?_, ?_⟩
    · simp [down, count]
    · simp [down]

theorem sends_countRefusal (error : ChannelError) (state : State Session) :
    Sends [] state (state.countRefusal error) := by
  simp only [countRefusal]
  split <;> exact .nothing rfl rfl

theorem sends_passUnhandled (unhandled : Option Sink) (datagram : Bytes) (state : State Session) :
    Sends [] state (state.passUnhandled unhandled datagram) := by
  cases unhandled with
  | none => exact .nothing rfl rfl
  | some sink =>
      rw [passUnhandled_some]
      split <;> exact .nothing rfl rfl

theorem sends_route (unhandled : Option Sink) (datagram : Bytes) (state : State Session) :
    Sends ((state.carried? datagram).toList.map Prod.snd) state
      (state.route unhandled datagram) := by
  simp only [route, carried?]
  cases Datagram.destination? datagram >>= state.find? with
  | none => exact sends_passUnhandled unhandled datagram state
  | some taker =>
      rcases taker with ⟨handle, session⟩
      simp only [Channel.checkLive, Channel.send, Session.packet?, Option.bind_eq_bind,
        Option.bind_some]
      cases live : session.isLive state.clock with
      | false =>
          simp only [Session.checkLive_of_not_isLive live, Bool.false_eq_true, if_false]
          exact (sends_passUnhandled unhandled datagram _).of_put
      | true =>
          simp only [Session.checkLive_of_isLive live, if_true]
          cases packed : (session.send state.clock datagram).2 with
          | ok packet => exact (sends_dispatch packet _).of_put
          | error error => exact (sends_countRefusal error _).of_put

/-! ## Rows of datagrams -/

namespace Carries

variable {one other : List Bytes}

theorem nothing (clock : after.clock = before.clock) (registry : after.registry = before.registry)
    (channels : after.channels = before.channels) (outages : after.outages = before.outages)
    (sends : before.Sends [] after) : Carries [] before after := by
  refine ⟨.of_same clock registry channels, outages, sends, ?_⟩
  intro identity handle session _ known
  rw [channels, known]
  rfl

theorem append (first : Carries one before between) (second : Carries other between after) :
    Carries (one ++ other) before after := by
  have carried : between.carried? = before.carried? := funext fun datagram => by
    exact carried?_of_rests first.rests datagram
  refine ⟨first.rests.trans second.rests, second.outages.trans first.outages, ?_, ?_⟩
  · have sends := second.sends
    rw [carried] at sends
    rw [List.filterMap_append, List.map_append]
    exact first.sends.append first.outages sends
  · intro identity handle session mapped known
    have once := first.mapped identity handle session mapped known
    rw [← first.rests.registry] at mapped
    rw [second.mapped identity handle _ mapped once, first.rests.clock, Datagram.destinedFor,
      Datagram.destinedFor, Datagram.destinedFor, List.filter_append, Session.carryEach,
      Session.carryEach, Session.carryEach, List.foldl_append]

end Carries

theorem carries_route (unhandled : Option Sink) (keyed : state.Keyed) (datagram : Bytes) :
    Carries [datagram] state (state.route unhandled datagram) := by
  have standing := standing_route unhandled datagram state
  refine ⟨rests_route unhandled datagram state, congrArg Prod.fst standing, ?_, ?_⟩
  · have row : [datagram].filterMap (fun datagram => state.carried? datagram) =
        (state.carried? datagram).toList := by
      cases packed : state.carried? datagram <;> simp [packed]
    rw [row]
    exact sends_route unhandled datagram state
  · intro identity handle session mapped known
    by_cases mine : Datagram.destination? datagram = some identity
    · rw [getElem?_route_of_destined unhandled mine mapped known]
      simp only [Datagram.destinedFor, List.filter_cons, mine, decide_true, if_true]
      rfl
    · rw [getElem?_route_of_elsewhere, known]
      · simp only [Datagram.destinedFor, List.filter_cons, mine, decide_false, Bool.false_eq_true,
          if_false]
        rfl
      · intro destination addressed found
        rw [keyed.injective found mapped] at addressed
        exact mine addressed

theorem Keyed.of_rests (keyed : before.Keyed) (rests : before.Rests after) : after.Keyed := by
  intro identity handle mapped
  rw [rests.registry] at mapped
  rcases keyed identity handle mapped with ⟨session, known, same⟩
  rcases rests.sessions handle session known with ⟨rested, found, rest⟩
  refine ⟨rested, found, ?_⟩
  rw [Session.identity, rest.profile]
  exact same

theorem carries_takeRead (unhandled : Option Sink) (keyed : state.Keyed) (bytes : Bytes) :
    Carries (Datagram.rowOf bytes) state (state.takeRead unhandled bytes) := by
  simp only [takeRead, Datagram.rowOf]
  cases Datagram.split bytes with
  | error error => exact .nothing rfl rfl rfl rfl (.nothing rfl rfl)
  | ok datagrams =>
      induction datagrams generalizing state with
      | nil => exact .nothing rfl rfl rfl rfl (.nothing rfl rfl)
      | cons datagram rest hypothesis =>
          have first := carries_route unhandled keyed datagram
          exact first.append (hypothesis (keyed.of_rests first.rests))

theorem carries_takeStream (unhandled : Option Sink) (keyed : state.Keyed) (stopping : Bool)
    (input : Pipe.Input) :
    Carries (if stopping then [] else (Pipe.frames readBuffer input).1.flatMap Datagram.rowOf) state
      (state.takeStream unhandled stopping input).1 := by
  simp only [takeStream]
  cases stopping with
  | true => exact .nothing rfl rfl rfl rfl (.nothing rfl rfl)
  | false =>
      simp only [Bool.false_eq_true, if_false]
      induction (Pipe.frames readBuffer input).1 generalizing state with
      | nil => exact .nothing rfl rfl rfl rfl (.nothing rfl rfl)
      | cons read rest hypothesis =>
          have first := carries_takeRead unhandled keyed read
          exact first.append (hypothesis (keyed.of_rests first.rests))

theorem getElem?_takeRead (unhandled : Option Sink) (keyed : state.Keyed) {bytes : Bytes}
    (row : Datagram.IsRow datagrams bytes)
    (mapped : state.registry.lookup identity = some handle)
    (known : state.channels[handle]? = some session) :
    (state.takeRead unhandled bytes).channels[handle]? =
      some (session.carryEach state.clock (Datagram.destinedFor identity datagrams)) := by
  have carries := carries_takeRead unhandled keyed bytes
  rw [Datagram.rowOf_of_isRow row] at carries
  exact carries.mapped identity handle session mapped known

end State

end TunnelServer
