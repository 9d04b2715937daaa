import TunnelServer.Proofs.Run.Tally
import TunnelServer.Proofs.Timeouts

/-!
# What a server refuses

The pumps and the registry look at a session before they call it, so no session ever refuses one of
their calls for being, or for not being, connected, whatever else was done to the sessions before.  All
that is refused are local datagrams that are larger than the session lets through that they are for.
-/

namespace TunnelServer

namespace State

/-- A datagram is for a session that serves its destination, but is larger than that session lets
through. -/
def Oversized (datagram : Bytes) (state : State Session) : Prop :=
  ∃ identity handle session link, Datagram.destination? datagram = some identity ∧
    state.Serves identity handle session link ∧ session.profile.mtu < datagram.length

/-- A session is mapped to its identity and linked anew.  If another session was mapped to that identity,
that session is replaced, which closes it. -/
structure Replaces (handle : Handle) (session : Session) (link : Link) (replaced : Option Handle)
    (before after : State Session) : Prop where
  mapped : ∀ identity, after.registry.lookup identity =
    if identity = session.identity then some handle else before.registry.lookup identity
  linked : after.channels[handle]? = some { session with
    link := some link
    lastReceived := before.clock.now
    lastSent := before.clock.now }
  displaced : ∀ previous, replaced = some previous ↔
    before.registry.lookup session.identity = some previous ∧ previous ≠ handle
  closed : ∀ previous other, replaced = some previous → before.channels[previous]? = some other →
    after.channels[previous]? = some { other with link := none }
  others : ∀ other, other ≠ handle → replaced ≠ some other →
    after.channels[other]? = before.channels[other]?

end State

/-- A session never refuses to be attached. -/
theorem Session.attach_eq (clock : Clock) (sink : Sink) (peer : SocketAddress)
    (session : Session) :
    Channel.attach clock sink peer session = (session.linkTo clock sink peer, .ok ()) := by
  simp only [Channel.attach, Channel.checkLive, Channel.connect, Channel.reconnect]
  cases live : session.isLive clock with
  | true =>
      rw [checkLive_of_isLive live]
      rcases Option.isSome_iff_exists.mp (Bool.and_eq_true_iff.mp live).1 with ⟨link, linked⟩
      simp only [reconnect, linked]
  | false =>
      rw [checkLive_of_not_isLive live]
      rfl

namespace State

variable {state : State Session} {handle : Handle} {session : Session} {datagram : Bytes}

/-! ## Datagrams that are too large -/

theorem departure_eq_oversized_iff :
    state.departure datagram = .oversized ↔ state.Oversized datagram := by
  constructor
  · intro found
    simp only [departure] at found
    split at found
    · cases found
    · rename_i handle session taker
      rcases Option.bind_eq_some_iff.mp taker with ⟨identity, destination, mapped⟩
      rcases find?_eq_some_iff.mp mapped with ⟨lookup, known⟩
      simp only [Session.departure] at found
      split at found
      · cases found
      · rename_i link linked
        split at found
        · cases found
        · rename_i unexpired
          split at found
          · rename_i large
            refine ⟨identity, handle, session, link, destination, ⟨lookup, known, linked, ?_⟩, large⟩
            simpa [Session.hasExpired, linked] using unexpired
          · cases found
  · rintro ⟨identity, handle, session, link, destination, serves, large⟩
    have found := find?_eq_some_iff.mpr ⟨serves.mapped, serves.known⟩
    have unexpired : session.hasExpired state.clock = false := by
      simpa [Session.hasExpired, serves.linked] using serves.heard
    simp [departure, destination, found, Session.departure, serves.linked, unexpired, large]

instance (datagram : Bytes) (state : State Session) : Decidable (state.Oversized datagram) :=
  decidable_of_iff _ departure_eq_oversized_iff

/-! ## Putting one session in place of another -/

theorem snd_install (known : state.channels[handle]? = some session) (previous : Handle) :
    (state.install handle).2 = some previous ↔
      state.registry.lookup session.identity = some previous ∧ previous ≠ handle := by
  simp only [install]
  rw [known]
  dsimp only
  split
  · rename_i vacant
    replace vacant : state.registry.lookup session.identity = none := vacant
    simp [vacant]
  · rename_i mapped lookup
    replace lookup : state.registry.lookup session.identity = some mapped := lookup
    split
    · rename_i same
      simp only [lookup, same, Option.some.injEq, reduceCtorEq, false_iff, not_and, not_not]
      exact Eq.symm
    · rename_i different
      simp only [lookup, Option.some.injEq]
      constructor
      · rintro rfl
        exact ⟨rfl, different⟩
      · exact And.left

theorem channels_install (known : state.channels[handle]? = some session) :
    (state.install handle).1.channels =
      match (state.install handle).2 with
      | none => state.channels
      | some previous => (state.close previous).channels := by
  simp only [install]
  rw [known]
  dsimp only
  split
  · rfl
  · split
    · rfl
    · rw [close_mapping]

theorem getElem?_install_of_known (known : state.channels[handle]? = some session) :
    (state.install handle).1.channels[handle]? = some session := by
  rw [channels_install known]
  split
  · exact known
  · rename_i previous displaced
    exact (getElem?_close_of_ne ((snd_install known previous).mp displaced).2).trans known

theorem installOrReplace_of_known (known : state.channels[handle]? = some session) (sink : Sink)
    (peer : SocketAddress) :
    state.installOrReplace handle sink peer =
      ((state.install handle).1.put handle (session.linkTo state.clock sink peer),
        .ok (state.install handle).2) := by
  have attached := Session.attach_eq state.clock sink peer session
  simp only [installOrReplace, onChannel, getElem?_install_of_known known, clock_install, attached]

theorem replaces_installOrReplace (known : state.channels[handle]? = some session) (sink : Sink)
    (peer : SocketAddress) :
    state.Replaces handle session ⟨sink, peer⟩ (state.install handle).2
      (state.installOrReplace handle sink peer).1 := by
  rw [installOrReplace_of_known known]
  refine ⟨?_, ?_, snd_install known, ?_, ?_⟩
  · exact fun identity => lookup_install known identity
  · rcases List.getElem?_eq_some_iff.mp (getElem?_install_of_known known) with ⟨bound, -⟩
    rw [channels_put, List.getElem?_set_self bound]
    rfl
  · intro previous other displaced there
    have different := ((snd_install known previous).mp displaced).2
    rw [channels_put, List.getElem?_set_ne different.symm, channels_install known, displaced]
    simp only [getElem?_close, there, Option.map_some]
    rfl
  · intro other different kept
    rw [channels_put, List.getElem?_set_ne different.symm, channels_install known]
    split
    · rfl
    · rename_i previous displaced
      apply getElem?_close_of_ne
      rintro rfl
      exact kept displaced

end State

/-! ## Everything that is refused -/

namespace Occurrence

variable {link : LocalLink} {event : Occurrence}

/-- Of the datagrams of an event those that are too large are rejected, and nothing else is. -/
theorem refused_tally (link : LocalLink) (event : Occurrence) :
    (event.tally link).rejected =
        (event.datagrams.countP fun datagram => event.state.Oversized datagram) ∧
      (event.tally link).stateErrors = 0 := by
  have read : (event.reads.map fun bytes => event.state.readTally link.unhandled bytes).sum.rejected =
        (event.datagrams.countP fun datagram => event.state.Oversized datagram) ∧
      (event.reads.map fun bytes => event.state.readTally link.unhandled bytes).sum.stateErrors =
        0 := by
    refine ⟨(event.sum_reads Counters.rejections rfl link.unhandled).trans ?_,
      event.sum_reads_eq_zero Counters.missteps rfl link.unhandled fun departure =>
        (departure.measured_tally _ _).missteps⟩
    rw [← sum_map_indicator]
    apply congrArg List.sum
    apply List.map_congr_left
    intro datagram _
    simp only [← State.departure_eq_oversized_iff]
    exact (Departure.measured_tally _ _ _).rejections
  rcases event with ⟨state, operation⟩
  cases operation with
  | common operation =>
      cases operation with
      | packet bytes source =>
          have measured := Arrival.measured_tally state.outages
            (state.arrival link.sink bytes source)
          exact ⟨measured.rejections, measured.missteps⟩
      | _ => exact read
  | heartbeatPass => exact ⟨rfl, rfl⟩
  | _ => exact read

end Occurrence

/-- Whatever is done to a server and to its sessions, no call that a pump or the registry makes is refused
because a session is, or is not, connected.  Packets and heartbeats are never rejected at all; of local
datagrams those are that are for a session that is connected and lets nothing through that is as large.
A session can always be put in place of another: it is mapped and linked to the given peer as of now,
and the session that was mapped to its identity, if it is another one, is closed and given back. -/
theorem only_oversized_datagrams_are_refused {link : LocalLink} {origin : Clock}
    {events : List Occurrence} {state : State Session}
    (chronicle : Chronicle link (fun _ => True) origin events state) :
    state.counters.stateErrors = 0 ∧
      state.counters.rejected = (events.map fun event =>
        event.datagrams.countP fun datagram => event.state.Oversized datagram).sum ∧
      (∀ localSink packet source,
        (state.takePacket localSink packet source).counters.rejected = state.counters.rejected) ∧
      state.heartbeatPass.1.counters.rejected = state.counters.rejected ∧
      (∀ handle session sink peer, state.channels[handle]? = some session →
        ∃ replaced, (state.installOrReplace handle sink peer).2 = .ok replaced ∧
          state.Replaces handle session ⟨sink, peer⟩ replaced
            (state.installOrReplace handle sink peer).1) := by
  refine ⟨?_, ?_, ?_, ?_, ?_⟩
  · refine (chronicle.measure_eq Counters.missteps).trans ?_
    apply List.sum_eq_zero
    intro counted member
    rcases List.mem_map.mp member with ⟨event, -, rfl⟩
    exact (event.refused_tally link).2
  · refine (chronicle.measure_eq Counters.rejections).trans ?_
    apply congrArg List.sum
    apply List.map_congr_left
    intro event _
    exact (event.refused_tally link).1
  · intro localSink packet source
    have counters : (state.takePacket localSink packet source).counters = state.counters + _ :=
      congrArg State.counters (State.takePacket_eq localSink packet source state)
    rw [counters]
    exact congrArg (state.counters.rejected + ·) (Arrival.measured_tally _ _).rejections
  · rw [State.counters_heartbeatPass chronicle.keyed]
    rfl
  · intro handle session sink peer known
    refine ⟨_, ?_, State.replaces_installOrReplace known sink peer⟩
    rw [State.installOrReplace_of_known known]

/-- A tunnel that lets nothing through that is as large as a header rejects even a datagram without a
payload. -/
theorem narrow_tunnel_rejects_datagram :
    let operations : List SessionOperation :=
      [.create { Sample.record with mtu := 39 },
        .common (.installOrReplace 0 "local" (.v4 Ipv4Address.unspecified 5072)),
        .common (.localRead Sample.destined)]
    let events := SessionOperation.occurrences Sample.localLink [] Sample.empty operations
    let state := (SessionOperation.run Sample.localLink Sample.empty operations).1
    Chronicle Sample.localLink (fun _ => True) Sample.empty.clock events state ∧
      state.counters.stateErrors = 0 ∧ state.counters.rejected = 1 := by
  intro operations events state
  have origin : Chronicle Sample.localLink (fun _ => True) Sample.empty.clock [] Sample.empty :=
    .start
  have chronicle := origin.run operations fun _ _ => trivial
  rcases only_oversized_datagrams_are_refused chronicle with ⟨none, rejected, -⟩
  refine ⟨chronicle, none, rejected.trans ?_⟩
  have row (state : State Session) : Occurrence.datagrams
      ⟨state, .common (.localRead Sample.destined)⟩ = [Sample.destined] :=
    Datagram.rowOf_of_isRow Sample.isRow_destined
  have large : State.Oversized Sample.destined (SessionOperation.run Sample.localLink Sample.empty
      (operations.take 2)).1 := by decide
  simp only [operations, SessionOperation.occurrences, List.map_cons, row]
  change [Sample.destined].countP (fun datagram => State.Oversized datagram
    (SessionOperation.run Sample.localLink Sample.empty (operations.take 2)).1) = 1
  simp only [List.countP_cons, large]
  rfl

end TunnelServer
