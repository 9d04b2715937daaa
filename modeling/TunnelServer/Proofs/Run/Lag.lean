import TunnelServer.Proofs.LocalStream
import TunnelServer.Proofs.Run.Replacement
import TunnelServer.Proofs.Run.Seats
import TunnelServer.Proofs.Run.Sweep

/-!
# Servers that lag behind others

One server lags behind another if it is the same but that the other has noticed some timeouts already
that it has not.  No operation that goes through the registry or the pumps can tell the two apart: each
of them checks a session before it does anything with its link, and after a check there is nothing left
to notice.  So both do the same, and the one still lags behind the other.
-/

namespace TunnelServer

theorem Registry.perm_of_lookup {one other : Registry}
    (same : ∀ identity, other.lookup identity = one.lookup identity) :
    other.entries.Perm one.entries := by
  apply (List.perm_ext_iff_of_nodup other.nodup.of_map one.nodup.of_map).mpr
  rintro ⟨identity, handle⟩
  rw [← lookup_eq_some_iff, ← lookup_eq_some_iff, same]

namespace Session

variable {clock : Clock} {one other : Session}

/-- A session is the same as another, but that the other may have given up a link that has expired. -/
def Lags (clock : Clock) (one other : Session) : Prop :=
  other = one ∨ one.hasExpired clock = true ∧ other = { one with link := none }

theorem Lags.refl (clock : Clock) (session : Session) : session.Lags clock session :=
  .inl rfl

/-- A check makes the two equal. -/
theorem Lags.checkLive (lags : one.Lags clock other) :
    other.checkLive clock = one.checkLive clock := by
  rcases lags with rfl | ⟨expired, rfl⟩
  · rfl
  · rw [checkLive_of_not_isLive (isLive_of_hasExpired expired)]
    rfl

theorem Lags.close (lags : one.Lags clock other) : other.close = one.close := by
  rcases lags with rfl | ⟨-, rfl⟩ <;> rfl

theorem Lags.profile (lags : one.Lags clock other) : other.profile = one.profile := by
  rcases lags with rfl | ⟨-, rfl⟩ <;> rfl

theorem Lags.later {later : Clock} (lags : one.Lags clock other) (after : clock.now ≤ later.now) :
    one.Lags later other := by
  rcases lags with same | ⟨expired, closed⟩
  · exact .inl same
  · refine .inr ⟨?_, closed⟩
    simp only [hasExpired, Bool.and_eq_true, decide_eq_true_eq] at expired ⊢
    refine ⟨expired.1, Nat.lt_of_lt_of_le expired.2 ?_⟩
    exact Nat.sub_le_sub_right after one.lastReceived

theorem Lags.checked (lags : one.Lags clock other) : one.Lags clock (other.checkLive clock).1 := by
  rw [lags.checkLive, fst_checkLive]
  cases expired : one.hasExpired clock with
  | true => exact .inr ⟨expired, rfl⟩
  | false => exact .inl rfl

theorem Lags.attach (lags : one.Lags clock other) (sink : Sink) (peer : SocketAddress) :
    Channel.attach clock sink peer other = Channel.attach clock sink peer one := by
  have checked : Channel.checkLive clock other = Channel.checkLive clock one := lags.checkLive
  simp only [Channel.attach, checked]

theorem Lags.accept (lags : one.Lags clock other) (sink : Sink) (source : SocketAddress)
    (packet : Bytes) :
    Channel.accept clock sink source packet other =
      Channel.accept clock sink source packet one := by
  have checked : Channel.checkLive clock other = Channel.checkLive clock one := lags.checkLive
  simp only [Channel.accept, Channel.follow, checked]

end Session

namespace State

variable {one other after last : State Session} {handle : Handle} {session : Session}

/-- A server is the same as another but for the links that the other has given up already, the count of
timeouts, and what each of them has sent and written. -/
structure Lags (one other : State Session) : Prop where
  clock : other.clock = one.clock
  lookup : ∀ identity, other.registry.lookup identity = one.registry.lookup identity
  outages : other.outages = one.outages
  counters : other.counters = { one.counters with timeouts := other.counters.timeouts }
  length : other.channels.length = one.channels.length
  sessions : ∀ (handle : Handle) (session counterpart : Session),
    one.channels[handle]? = some session → other.channels[handle]? = some counterpart →
      session.Lags one.clock counterpart

/-- Two servers, of which one lags behind the other, take a step each: they send and write the same, and
the one still lags behind the other. -/
structure InStep (one other after last : State Session) : Prop where
  lags : after.Lags last
  sent : ∃ packets, after.sent = one.sent ++ packets ∧ last.sent = other.sent ++ packets
  written : ∃ deliveries,
    after.written = one.written ++ deliveries ∧ last.written = other.written ++ deliveries

namespace Lags

theorem refl (state : State Session) : state.Lags state := by
  refine ⟨rfl, fun _ => rfl, rfl, rfl, rfl, ?_⟩
  intro handle session counterpart known there
  cases known.symm.trans there
  exact .refl state.clock session

theorem unknown (lags : one.Lags other) (unknown : one.channels[handle]? = none) :
    other.channels[handle]? = none := by
  rw [List.getElem?_eq_none_iff] at unknown ⊢
  rw [lags.length]
  exact unknown

theorem known (lags : one.Lags other) (known : one.channels[handle]? = some session) :
    ∃ counterpart, other.channels[handle]? = some counterpart ∧
      session.Lags one.clock counterpart := by
  rcases List.getElem?_eq_some_iff.mp known with ⟨bound, -⟩
  rw [← lags.length] at bound
  have there := List.getElem?_eq_getElem bound
  exact ⟨other.channels[handle], there, lags.sessions handle session _ known there⟩

theorem profiles (lags : one.Lags other) : other.profiles = one.profiles := by
  apply List.ext_getElem?
  intro handle
  simp only [State.profiles, List.getElem?_map]
  cases found : one.channels[handle]? with
  | none => rw [lags.unknown found]
  | some session =>
      rcases lags.known found with ⟨counterpart, there, behind⟩
      rw [there, Option.map_some, Option.map_some, behind.profile]

theorem find?_none (lags : one.Lags other) {identity : Identity}
    (nobody : one.find? identity = none) : other.find? identity = none := by
  simp only [find?, lags.lookup] at nobody ⊢
  cases mapped : one.registry.lookup identity with
  | none => rfl
  | some handle =>
      rw [mapped] at nobody
      have absent : one.channels[handle]? = none := Option.map_eq_none_iff.mp nobody
      simp only [lags.unknown absent, Option.map_none]

theorem find?_some (lags : one.Lags other) {identity : Identity}
    (found : one.find? identity = some (handle, session)) :
    ∃ counterpart, other.find? identity = some (handle, counterpart) ∧
      session.Lags one.clock counterpart := by
  rcases find?_eq_some_iff.mp found with ⟨mapped, known⟩
  rcases lags.known known with ⟨counterpart, there, behind⟩
  rw [← lags.lookup] at mapped
  exact ⟨counterpart, find?_eq_some_iff.mpr ⟨mapped, there⟩, behind⟩

theorem put (lags : one.Lags other) (handle : Handle) (session : Session) :
    (one.put handle session).Lags (other.put handle session) := by
  refine ⟨lags.clock, lags.lookup, lags.outages, lags.counters, ?_, ?_⟩
  · rw [channels_put, channels_put, List.length_set, List.length_set, lags.length]
  · intro found before counterpart known there
    rw [channels_put, List.getElem?_set] at known there
    split at known
    · rename_i same
      rw [if_pos same, lags.length] at there
      cases known.symm.trans there
      exact .refl one.clock before
    · rename_i different
      rw [if_neg different] at there
      exact lags.sessions found before counterpart known there

theorem count (lags : one.Lags other) {bump : Counters → Counters}
    (apart : ∀ counters timeouts, bump { counters with timeouts := timeouts } =
      { bump counters with timeouts := (bump { counters with timeouts := timeouts }).timeouts }) :
    (one.count bump).Lags (other.count bump) := by
  refine ⟨lags.clock, lags.lookup, lags.outages, ?_, lags.length, lags.sessions⟩
  rw [counters_count, counters_count, lags.counters]
  exact apart one.counters other.counters.timeouts

theorem advance (lags : one.Lags other) (nanos : Nat) :
    State.Lags { one with clock := one.clock.advance nanos }
      { other with clock := other.clock.advance nanos } := by
  refine ⟨?_, lags.lookup, lags.outages, lags.counters, lags.length, ?_⟩
  · simp only [lags.clock]
  · intro handle session counterpart known there
    exact (lags.sessions handle session counterpart known there).later
      (Nat.le_add_right one.clock.now nanos)

theorem withOutages (lags : one.Lags other) (present : Outages) :
    State.Lags { one with outages := present } { other with outages := present } :=
  ⟨lags.clock, lags.lookup, rfl, lags.counters, lags.length, lags.sessions⟩

/-- The order in which the registries list their entries does not matter. -/
theorem withRegistry (lags : one.Lags other) {first second : Registry}
    (lookup : ∀ identity, second.lookup identity = first.lookup identity) :
    State.Lags { one with registry := first } { other with registry := second } :=
  ⟨lags.clock, lookup, lags.outages, lags.counters, lags.length, lags.sessions⟩

theorem reordered (lags : one.Lags other) {first second : Registry}
    (same : first.entries.Perm one.registry.entries)
    (resame : second.entries.Perm other.registry.entries) :
    State.Lags { one with registry := first } { other with registry := second } := by
  apply lags.withRegistry
  intro identity
  rw [Registry.lookup_of_perm same, Registry.lookup_of_perm resame, lags.lookup]

theorem append (lags : one.Lags other) (sessions : List Session) :
    State.Lags { one with channels := one.channels ++ sessions }
      { other with channels := other.channels ++ sessions } := by
  refine ⟨lags.clock, lags.lookup, lags.outages, lags.counters, ?_, ?_⟩
  · rw [List.length_append, List.length_append, lags.length]
  · intro handle session counterpart known there
    simp only [List.getElem?_append, lags.length] at known there
    split at known
    · rename_i bound
      rw [if_pos bound] at there
      exact lags.sessions handle session counterpart known there
    · rename_i beyond
      rw [if_neg beyond] at there
      cases known.symm.trans there
      exact .refl one.clock session

theorem handles (lags : one.Lags other) :
    other.registry.handles.Perm one.registry.handles :=
  (Registry.perm_of_lookup lags.lookup).map Prod.snd

theorem mem_identities_iff (lags : one.Lags other) (identity : Identity) :
    identity ∈ other.registry.identities ↔ identity ∈ one.registry.identities := by
  rw [Registry.mem_identities_iff, Registry.mem_identities_iff, lags.lookup]

theorem identitiesOf (lags : one.Lags other) (handles : List Handle) :
    other.identitiesOf handles = one.identitiesOf handles := by
  rw [identitiesOf_eq, identitiesOf_eq, lags.profiles]

end Lags

namespace InStep

theorem quiet (lags : after.Lags last) (sent : after.sent = one.sent)
    (resent : last.sent = other.sent) (written : after.written = one.written)
    (rewritten : last.written = other.written) : InStep one other after last := by
  refine ⟨lags, ⟨[], ?_, ?_⟩, ⟨[], ?_, ?_⟩⟩ <;> rw [List.append_nil]
  · exact sent
  · exact resent
  · exact written
  · exact rewritten

theorem refl (lags : one.Lags other) : InStep one other one other :=
  .quiet lags rfl rfl rfl rfl

theorem of_aside (lags : after.Lags last) (first : after.aside = one.aside)
    (second : last.aside = other.aside) : InStep one other after last := by
  have sent : after.aside.sent = one.aside.sent := congrArg State.sent first
  have resent : last.aside.sent = other.aside.sent := congrArg State.sent second
  have written : after.aside.written = one.aside.written := congrArg State.written first
  have rewritten : last.aside.written = other.aside.written := congrArg State.written second
  exact .quiet lags sent resent written rewritten

theorem of_onlySessions (lags : after.Lags last) (first : one.OnlySessions after)
    (second : other.OnlySessions last) : InStep one other after last := by
  apply quiet lags
  · rw [first]
  · rw [second]
  · rw [first]
  · rw [second]

theorem trans {further furthest : State Session} (first : InStep one other after last)
    (second : InStep after last further furthest) : InStep one other further furthest := by
  rcases first.sent with ⟨packets, sent, resent⟩
  rcases second.sent with ⟨others, sentLater, resentLater⟩
  rcases first.written with ⟨deliveries, written, rewritten⟩
  rcases second.written with ⟨further, writtenLater, rewrittenLater⟩
  refine ⟨second.lags, ⟨packets ++ others, ?_, ?_⟩, ⟨deliveries ++ further, ?_, ?_⟩⟩
  · rw [sentLater, sent, List.append_assoc]
  · rw [resentLater, resent, List.append_assoc]
  · rw [writtenLater, written, List.append_assoc]
  · rw [rewrittenLater, rewritten, List.append_assoc]

theorem put (lags : one.Lags other) (handle : Handle) (session : Session) :
    InStep one other (one.put handle session) (other.put handle session) :=
  .quiet (lags.put handle session) rfl rfl rfl rfl

theorem count (lags : one.Lags other) {bump : Counters → Counters}
    (apart : ∀ counters timeouts, bump { counters with timeouts := timeouts } =
      { bump counters with timeouts := (bump { counters with timeouts := timeouts }).timeouts }) :
    InStep one other (one.count bump) (other.count bump) :=
  .quiet (lags.count apart) rfl rfl rfl rfl

theorem send (lags : one.Lags other) (packet : Transmission) :
    InStep one other { one with sent := one.sent ++ [packet] }
      { other with sent := other.sent ++ [packet] } := by
  refine ⟨?_, ⟨[packet], rfl, rfl⟩, ⟨[], ?_, ?_⟩⟩
  · exact ⟨lags.clock, lags.lookup, lags.outages, lags.counters, lags.length, lags.sessions⟩
  · exact (List.append_nil one.written).symm
  · exact (List.append_nil other.written).symm

theorem write (lags : one.Lags other) (delivery : Delivery) :
    InStep one other { one with written := one.written ++ [delivery] }
      { other with written := other.written ++ [delivery] } := by
  refine ⟨?_, ⟨[], ?_, ?_⟩, ⟨[delivery], rfl, rfl⟩⟩
  · exact ⟨lags.clock, lags.lookup, lags.outages, lags.counters, lags.length, lags.sessions⟩
  · exact (List.append_nil one.sent).symm
  · exact (List.append_nil other.sent).symm

theorem foldl {α : Type} {step : State Session → α → State Session}
    (each : ∀ (one other : State Session) item, one.Lags other →
      InStep one other (step one item) (step other item))
    (lags : one.Lags other) (items : List α) :
    InStep one other (items.foldl step one) (items.foldl step other) := by
  induction items generalizing one other with
  | nil => exact refl lags
  | cons item rest hypothesis =>
      have first := each one other item lags
      exact first.trans (hypothesis first.lags)

end InStep

/-! ## What goes out -/

theorem inStep_countRefusal (lags : one.Lags other) (error : ChannelError) :
    InStep one other (one.countRefusal error) (other.countRefusal error) := by
  simp only [countRefusal]
  split
  · exact .count lags fun _ _ => rfl
  · exact .count lags fun _ _ => rfl

theorem inStep_perform (lags : one.Lags other) (action : Action) :
    InStep one other (one.perform action) (other.perform action) := by
  cases action with
  | nothing => exact .refl lags
  | deliver payload sink =>
      rw [perform_deliver, perform_deliver]
      by_cases down : sink ∈ one.outages.sinks
      · rw [if_pos down, if_pos (by rwa [lags.outages])]
        exact .count lags fun _ _ => rfl
      · rw [if_neg down, if_neg (by rwa [lags.outages])]
        have wrote := InStep.write lags ⟨sink, payload⟩
        exact wrote.trans (.count wrote.lags fun _ _ => rfl)

theorem inStep_passUnhandled (lags : one.Lags other) (unhandled : Option Sink) (datagram : Bytes) :
    InStep one other (one.passUnhandled unhandled datagram)
      (other.passUnhandled unhandled datagram) := by
  cases unhandled with
  | none =>
      simp only [passUnhandled]
      exact .count lags fun _ _ => rfl
  | some sink =>
      rw [passUnhandled_some, passUnhandled_some]
      by_cases down : sink ∈ one.outages.sinks
      · rw [if_pos down, if_pos (by rwa [lags.outages])]
        exact .count lags fun _ _ => rfl
      · rw [if_neg down, if_neg (by rwa [lags.outages])]
        have wrote := InStep.write lags ⟨sink, datagram⟩
        exact wrote.trans (.count wrote.lags fun _ _ => rfl)

theorem inStep_dispatch (lags : one.Lags other) (packet : Transmission) :
    InStep one other (one.dispatch packet) (other.dispatch packet) := by
  rw [dispatch_eq, dispatch_eq]
  by_cases down : packet.peer ∈ one.outages.peers
  · rw [if_pos down, if_pos (by rwa [lags.outages])]
    exact .count lags fun _ _ => rfl
  · rw [if_neg down, if_neg (by rwa [lags.outages])]
    have sent := InStep.send lags packet
    exact sent.trans (.count sent.lags fun _ _ => rfl)

/-! ## Packets and reads -/

theorem inStep_takePacket (lags : one.Lags other) (localSink : Sink) (packet : Bytes)
    (source : SocketAddress) :
    InStep one other (one.takePacket localSink packet source)
      (other.takePacket localSink packet source) := by
  have received : InStep one other
      (one.count fun counters => { counters with received := counters.received + 1 })
      (other.count fun counters => { counters with received := counters.received + 1 }) :=
    .count lags fun _ _ => rfl
  refine received.trans ?_
  simp only [takePacket, clock_count, find?_count, lags.clock]
  split
  · exact .count received.lags fun _ _ => rfl
  · rename_i sender claimed
    cases found : one.find? sender with
    | none =>
        simp only [lags.find?_none found]
        exact .count received.lags fun _ _ => rfl
    | some taker =>
        rcases lags.find?_some found with ⟨counterpart, there, behind⟩
        simp only [there, behind.accept]
        have put := InStep.put received.lags taker.1
          (Channel.accept one.clock localSink source packet taker.2).1
        refine put.trans ?_
        split
        · exact inStep_perform put.lags _
        · exact inStep_countRefusal put.lags _

theorem inStep_route (lags : one.Lags other) (unhandled : Option Sink) (datagram : Bytes) :
    InStep one other (one.route unhandled datagram) (other.route unhandled datagram) := by
  cases destination : Datagram.destination? datagram with
  | none =>
      simp only [route, destination, Option.bind_eq_bind, Option.bind_none]
      exact inStep_passUnhandled lags unhandled datagram
  | some identity =>
      cases found : one.find? identity with
      | none =>
          simp only [route, destination, Option.bind_eq_bind, Option.bind_some, found,
            lags.find?_none found]
          exact inStep_passUnhandled lags unhandled datagram
      | some taker =>
          rcases lags.find?_some found with ⟨counterpart, there, behind⟩
          have checked : Channel.checkLive one.clock counterpart =
              Channel.checkLive one.clock taker.2 := behind.checkLive
          simp only [route, destination, Option.bind_eq_bind, Option.bind_some, found, there,
            lags.clock, checked]
          split
          · have put := InStep.put lags taker.1 (Channel.checkLive one.clock taker.2).1
            rename_i gone result
            rw [result] at put
            exact put.trans (inStep_passUnhandled put.lags unhandled datagram)
          · rename_i live result
            have put := InStep.put lags taker.1 (Channel.send one.clock datagram live).1
            refine put.trans ?_
            split
            · exact inStep_dispatch put.lags _
            · exact inStep_countRefusal put.lags _

theorem inStep_takeRead (lags : one.Lags other) (unhandled : Option Sink) (bytes : Bytes) :
    InStep one other (one.takeRead unhandled bytes) (other.takeRead unhandled bytes) := by
  simp only [takeRead]
  split
  · exact .count lags fun _ _ => rfl
  · exact .foldl (fun _ _ datagram lags => inStep_route lags unhandled datagram) lags _

theorem inStep_takeStream (lags : one.Lags other) (unhandled : Option Sink) (stopping : Bool)
    (input : Pipe.Input) :
    InStep one other (one.takeStream unhandled stopping input).1
        (other.takeStream unhandled stopping input).1 ∧
      (other.takeStream unhandled stopping input).2 =
        (one.takeStream unhandled stopping input).2 := by
  simp only [takeStream]
  split
  · exact ⟨.refl lags, rfl⟩
  · exact ⟨.foldl (fun _ _ read lags => inStep_takeRead lags unhandled read) lags _, rfl⟩

/-! ## Registration -/

theorem Lags.onChannel {α : Type} {act react : Session → Session × α} (lags : one.Lags other)
    (handle : Handle) (default : α)
    (same : ∀ session counterpart, session.Lags one.clock counterpart →
      react counterpart = act session) :
    (one.onChannel handle default act).1.Lags (other.onChannel handle default react).1 ∧
      (other.onChannel handle default react).2 = (one.onChannel handle default act).2 := by
  cases known : one.channels[handle]? with
  | none =>
      simp only [State.onChannel, known, lags.unknown known]
      exact ⟨lags, trivial⟩
  | some session =>
      rcases lags.known known with ⟨counterpart, there, behind⟩
      simp only [State.onChannel, known, there, same session counterpart behind]
      exact ⟨lags.put handle _, trivial⟩

theorem Lags.close (lags : one.Lags other) (handle : Handle) :
    (one.close handle).Lags (other.close handle) := by
  refine (lags.onChannel handle () ?_).1
  intro session counterpart behind
  exact congrArg (·, ()) behind.close

theorem Lags.install (lags : one.Lags other) (installed : Handle) :
    (one.install installed).1.Lags (other.install installed).1 ∧
      (other.install installed).2 = (one.install installed).2 := by
  cases known : one.channels[installed]? with
  | none =>
      rw [install_of_unknown known, install_of_unknown (lags.unknown known)]
      exact ⟨lags, rfl⟩
  | some session =>
      rcases lags.known known with ⟨counterpart, there, behind⟩
      have identity : Channel.identity counterpart = Channel.identity session :=
        congrArg Profile.identity behind.profile
      have mapped : State.Lags
          { one with registry := one.registry.insert (Channel.identity session) installed }
          { other with registry := other.registry.insert (Channel.identity session) installed } := by
        apply lags.withRegistry
        intro found
        rw [Registry.lookup_insert, Registry.lookup_insert, lags.lookup]
      simp only [State.install, known, there, identity, lags.lookup]
      split
      · exact ⟨mapped, rfl⟩
      · split
        · exact ⟨mapped, rfl⟩
        · exact ⟨mapped.close _, rfl⟩

theorem inStep_install (lags : one.Lags other) (installed : Handle) :
    InStep one other (one.install installed).1 (other.install installed).1 :=
  .of_aside (lags.install installed).1 (aside_install installed one) (aside_install installed other)

theorem inStep_installOrReplace (lags : one.Lags other) (installed : Handle) (sink : Sink)
    (peer : SocketAddress) :
    InStep one other (one.installOrReplace installed sink peer).1
        (other.installOrReplace installed sink peer).1 ∧
      (other.installOrReplace installed sink peer).2 =
        (one.installOrReplace installed sink peer).2 := by
  rcases lags.install installed with ⟨mapped, replaced⟩
  have attached := mapped.onChannel installed (Except.ok ())
    fun _ _ behind => behind.attach sink peer
  have both := (inStep_install lags installed).trans
    (.of_onlySessions attached.1 (onlySessions_onChannel _ _ _ _) (onlySessions_onChannel _ _ _ _))
  simp only [installOrReplace, mapped.clock, attached.2, replaced]
  split
  · exact ⟨both, rfl⟩
  · exact ⟨both, rfl⟩

theorem Lags.remove (lags : one.Lags other) (identity : Identity) :
    (one.remove identity).1.Lags (other.remove identity).1 ∧
      (other.remove identity).2 = (one.remove identity).2 := by
  simp only [State.remove, lags.lookup]
  split
  · exact ⟨lags, rfl⟩
  · rename_i handle mapped
    have erased : State.Lags { one with registry := one.registry.erase identity }
        { other with registry := other.registry.erase identity } := by
      apply lags.withRegistry
      intro found
      rw [Registry.lookup_erase, Registry.lookup_erase, lags.lookup]
    exact ⟨erased.close handle, rfl⟩

theorem getElem?_remove (handle : Handle) (identity : Identity) (state : State Session) :
    (state.remove identity).1.channels[handle]? =
      if state.registry.lookup identity = some handle then
        state.channels[handle]?.map Session.close
      else state.channels[handle]? := by
  simp only [State.remove]
  split
  · rename_i absent
    rw [if_neg]
    rw [absent]
    exact Option.some_ne_none handle ∘ Eq.symm
  · rename_i removed mapped
    rw [close_mapping]
    by_cases same : removed = handle
    · subst same
      rw [if_pos mapped]
      exact getElem?_close removed state
    · rw [if_neg]
      · exact getElem?_close_of_ne same
      · rw [mapped]
        exact fun equal => same (Option.some.inj equal)

/-- Removing some identities closes the sessions mapped to them, in whatever order. -/
theorem getElem?_removeEach (handle : Handle) (identities : List Identity) (state : State Session) :
    (state.removeEach identities).channels[handle]? =
      if ∃ identity ∈ identities, state.registry.lookup identity = some handle then
        state.channels[handle]?.map Session.close
      else state.channels[handle]? := by
  induction identities generalizing state with
  | nil => simp [removeEach]
  | cons identity rest hypothesis =>
      have later : (∃ other ∈ rest, (state.remove identity).1.registry.lookup other = some handle) ↔
          ∃ other ∈ rest, other ≠ identity ∧ state.registry.lookup other = some handle := by
        simp only [lookup_remove]
        apply exists_congr
        intro other
        by_cases same : other = identity <;> simp [same]
      refine (hypothesis (state.remove identity).1).trans ?_
      simp only [later, getElem?_remove, List.mem_cons, exists_eq_or_imp]
      by_cases mapped : state.registry.lookup identity = some handle
      · simp only [mapped, if_true, true_or, Option.map_map]
        split <;> rfl
      · simp only [mapped, if_false, false_or]
        apply if_congr ?_ rfl rfl
        apply exists_congr
        intro other
        by_cases same : other = identity <;> simp [same, mapped]

theorem Lags.removeEach (lags : one.Lags other) {identities others : List Identity}
    (same : ∀ identity, identity ∈ others ↔ identity ∈ identities) :
    (one.removeEach identities).Lags (other.removeEach others) := by
  have lengths : ∀ (state : State Session) identities,
      (state.removeEach identities).channels.length = state.channels.length := by
    intro state identities
    have profiles := congrArg List.length (profiles_removeEach identities state)
    simpa only [State.profiles, List.length_map] using profiles
  have counted : ∀ (state : State Session) identities,
      (state.removeEach identities).counters = state.counters := by
    intro state identities
    have aside := congrArg State.counters (aside_removeEach identities state)
    exact aside
  have outages : ∀ (state : State Session) identities,
      (state.removeEach identities).outages = state.outages := by
    intro state identities
    have aside := congrArg State.outages (aside_removeEach identities state)
    exact aside
  refine ⟨?_, ?_, ?_, ?_, ?_, ?_⟩
  · rw [clock_removeEach, clock_removeEach, lags.clock]
  · intro identity
    rw [lookup_removeEach, lookup_removeEach, lags.lookup]
    exact if_congr (same identity) rfl rfl
  · rw [outages, outages, lags.outages]
  · rw [counted, counted, ← lags.counters]
  · rw [lengths, lengths, lags.length]
  · intro handle session counterpart known there
    have mapped : (∃ identity ∈ others, other.registry.lookup identity = some handle) ↔
        ∃ identity ∈ identities, one.registry.lookup identity = some handle := by
      simp only [same, lags.lookup]
    rw [getElem?_removeEach] at known there
    rw [clock_removeEach]
    by_cases gone : ∃ identity ∈ identities, one.registry.lookup identity = some handle
    · rw [if_pos gone, Option.map_eq_some_iff] at known
      rw [if_pos (mapped.mpr gone), Option.map_eq_some_iff] at there
      rcases known with ⟨before, known, rfl⟩
      rcases there with ⟨beside, there, rfl⟩
      exact .inl (lags.sessions handle before beside known there).close
    · rw [if_neg gone] at known
      rw [if_neg fun lost => gone (mapped.mp lost)] at there
      exact lags.sessions handle session counterpart known there

theorem inStep_removeEach (lags : one.Lags other) {identities others : List Identity}
    (same : ∀ identity, identity ∈ others ↔ identity ∈ identities) :
    InStep one other (one.removeEach identities) (other.removeEach others) :=
  .of_aside (lags.removeEach same) (aside_removeEach identities one) (aside_removeEach others other)

theorem inStep_replaceAll (lags : one.Lags other) (handles : List Handle) :
    InStep one other (one.replaceAll handles).1 (other.replaceAll handles).1 ∧
      (other.replaceAll handles).2 = (one.replaceAll handles).2 := by
  have installed : InStep one other (one.installEach handles) (other.installEach handles) :=
    .foldl (fun _ _ handle lags => inStep_install lags handle) lags handles
  simp only [replaceAll, lags.identitiesOf]
  refine ⟨installed.trans (inStep_removeEach installed.lags ?_), trivial⟩
  intro identity
  rw [List.mem_filter, List.mem_filter, installed.lags.mem_identities_iff]

theorem inStep_removeAll (lags : one.Lags other) :
    InStep one other one.removeAll.1 other.removeAll.1 ∧ other.removeAll.2 = one.removeAll.2 := by
  refine ⟨inStep_removeEach lags lags.mem_identities_iff, ?_⟩
  exact ((Registry.perm_of_lookup lags.lookup).map Prod.fst).length_eq

theorem inStep_reload (lags : one.Lags other) (ipv4Pop : Ipv4Address)
    (loaded : Except DirectoryError (List TunnelRecord)) :
    InStep one other (one.reload ipv4Pop loaded).1 (other.reload ipv4Pop loaded).1 ∧
      (other.reload ipv4Pop loaded).2 = (one.reload ipv4Pop loaded).2 := by
  cases loaded with
  | error error => exact ⟨.refl lags, rfl⟩
  | ok records =>
      have made : InStep one other
          { one with channels := one.channels ++ sessionsOf ipv4Pop one.clock records }
          { other with channels := other.channels ++ sessionsOf ipv4Pop one.clock records } :=
        .quiet (lags.append _) rfl rfl rfl rfl
      have replaced := inStep_replaceAll made.lags
        (List.range' one.channels.length (sessionsOf ipv4Pop one.clock records).length)
      have sessions : sessionsOf ipv4Pop other.clock records = sessionsOf ipv4Pop one.clock records := by
        rw [lags.clock]
      simp only [reload, sessions, lags.length, replaced.2]
      exact ⟨made.trans replaced.1, trivial⟩

end State

end TunnelServer
