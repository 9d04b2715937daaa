import TunnelServer.Proofs.Run.Seats

/-!
# When a session is connected

Whether a session is connected can be read off the history of the server.  What counts is the latest
event that attached the session to a peer: the session is connected if it was neither removed nor
displaced since, and if that event is no older than the session's patience.  Nothing else that has
happened matters, neither how often the session was checked nor what was in the packets.
-/

namespace TunnelServer

variable {link : LocalLink} {origin : Clock} {events : List Occurrence} {state : State Session}
variable {event : Occurrence} {handle : Handle} {session : Session}

/-! ## What a history leaves behind -/

/-- What a history leaves of a session: the latest attachment is recorded in it until it has expired,
and a session with a link was attached. -/
structure Remembers (link : LocalLink) (handle : Handle) (events : List Occurrence)
    (state : State Session) : Prop where
  attached : ∀ peer time, AttachedLast link handle peer time events →
    ∃ session, state.channels[handle]? = some session ∧ session.lastReceived = time ∧
      time ≤ state.clock.now ∧
      (session.peer? = some peer ∨
        session.link = none ∧ session.profile.patience < state.clock.now - time)
  linked : ∀ session : Session, state.channels[handle]? = some session → session.link.isSome →
    ∃ peer time, AttachedLast link handle peer time events

namespace Remembers

theorem start (handle : Handle) (clock : Clock) :
    Remembers link handle [] { clock := clock } := by
  constructor
  · intro peer time latest
    cases latest
  · intro session known
    cases known

theorem of_same {other : State Session} (remembers : Remembers link handle events state)
    (clock : other.clock = state.clock) (channels : other.channels = state.channels) :
    Remembers link handle events other := by
  rcases remembers with ⟨attached, linked⟩
  rw [← clock, ← channels] at attached
  rw [← channels] at linked
  exact ⟨attached, linked⟩

theorem attach {peer : SocketAddress} (keyed : event.state.Keyed)
    (exclusive : event.state.Exclusive) (indirect : ¬event.operation.Meddles)
    (attaches : event.Attaches handle peer) :
    Remembers link handle (event :: events) (event.next link) := by
  rcases event.attached link keyed exclusive attaches with
    ⟨session, after, known, found, profile, connected, heard⟩
  constructor
  · intro other time latest
    cases latest with
    | now again moment =>
        rw [attaches.unique again] at connected
        refine ⟨after, found, heard.trans moment, ?_, .inl connected⟩
        rw [← moment]
        exact Occurrence.now_le_next indirect
    | before apart => exact absurd attaches (apart peer)
  · intro _ _ _
    exact ⟨peer, event.state.clock.now, .now attaches rfl⟩

theorem unseat (keyed : event.state.Keyed) (exclusive : event.state.Exclusive)
    (indirect : ¬event.operation.Meddles) (apart : ∀ peer, ¬event.Attaches handle peer)
    (unseats : event.Unseats link handle) :
    Remembers link handle (event :: events) (event.next link) := by
  constructor
  · intro peer time latest
    cases latest with
    | now attaches => exact absurd attaches (apart peer)
    | before _ seated => exact absurd unseats seated
  · intro session known linked
    rcases Registry.mem_handles_iff.mp unseats.1 with ⟨identity, mapped⟩
    rcases keyed identity handle mapped with ⟨before, there, -⟩
    have closed := Occurrence.closed_of_unseats keyed exclusive indirect apart unseats there
    cases closed.symm.trans known
    cases linked

/-- An event that neither attaches a session nor takes its place away changes nothing about what is
remembered; all that can happen is that an attachment that has expired is forgotten. -/
theorem rest (keyed : event.state.Keyed) (exclusive : event.state.Exclusive)
    (indirect : ¬event.operation.Meddles) (apart : ∀ peer, ¬event.Attaches handle peer)
    (seated : ¬event.Unseats link handle) (remembers : Remembers link handle events event.state) :
    Remembers link handle (event :: events) (event.next link) := by
  have later : event.state.clock.now ≤ (event.next link).clock.now := Occurrence.now_le_next indirect
  constructor
  · intro peer time latest
    cases latest with
    | now attaches => exact absurd attaches (apart peer)
    | before _ _ latest =>
        rcases remembers.attached peer time latest with
          ⟨session, known, rfl, past, connected⟩
        rcases event.rests keyed exclusive indirect apart seated known with
          ⟨rested, found, profile, heard, linkage⟩
        refine ⟨rested, found, heard, Nat.le_trans past later, ?_⟩
        rw [profile]
        have longer : event.state.clock.now - session.lastReceived ≤
            (event.next link).clock.now - session.lastReceived :=
          Nat.sub_le_sub_right later session.lastReceived
        rcases connected with connected | ⟨unlinked, expired⟩
        · rcases linkage with kept | ⟨gone, lost⟩
          · left
            rw [Session.peer?, kept]
            exact connected
          · right
            refine ⟨lost, Nat.lt_of_lt_of_le ?_ longer⟩
            apply Nat.not_le.mp
            rw [← Session.isLive_iff_of_peer? connected, gone]
            exact Bool.false_ne_true
        · right
          refine ⟨?_, Nat.lt_of_lt_of_le expired longer⟩
          rcases linkage with kept | ⟨-, lost⟩
          · exact kept.trans unlinked
          · exact lost
  · intro session known linked
    cases before : event.state.channels[handle]? with
    | none =>
        have unlinked := Occurrence.unlinked_of_new keyed exclusive indirect before known
        rw [unlinked] at linked
        cases linked
    | some previous =>
        rcases event.rests keyed exclusive indirect apart seated before with
          ⟨rested, found, rests⟩
        cases found.symm.trans known
        have present : previous.link.isSome := by
          rw [← Option.ne_none_iff_isSome]
          intro unlinked
          rw [rests.unlinked unlinked] at linked
          cases linked
        rcases remembers.linked previous before present with ⟨peer, time, latest⟩
        exact ⟨peer, time, .before apart seated latest⟩

/-- One event keeps up what is remembered. -/
theorem next (keyed : event.state.Keyed) (exclusive : event.state.Exclusive)
    (indirect : ¬event.operation.Meddles) (remembers : Remembers link handle events event.state) :
    Remembers link handle (event :: events) (event.next link) := by
  by_cases attached : ∃ peer, event.Attaches handle peer
  · rcases attached with ⟨peer, attaches⟩
    exact attach keyed exclusive indirect attaches
  · have apart := not_exists.mp attached
    by_cases unseats : event.Unseats link handle
    · exact unseat keyed exclusive indirect apart unseats
    · exact remembers.rest keyed exclusive indirect apart unseats

theorem recorded {peer : SocketAddress} {time : Instant}
    (remembers : Remembers link handle events state)
    (known : state.channels[handle]? = some session)
    (latest : AttachedLast link handle peer time events)
    (live : session.isLive state.clock = true) :
    session.peer? = some peer ∧ session.lastReceived = time := by
  rcases remembers.attached peer time latest with ⟨found, there, heard, -, connected⟩
  cases known.symm.trans there
  refine ⟨connected.resolve_right ?_, heard⟩
  rintro ⟨unlinked, -⟩
  rw [Session.isLive_eq, unlinked] at live
  cases live

theorem isLive_iff (remembers : Remembers link handle events state)
    (known : state.channels[handle]? = some session) :
    session.isLive state.clock = true ↔
      ∃ peer time, AttachedLast link handle peer time events ∧
        state.clock.now - time ≤ session.profile.patience := by
  constructor
  · intro live
    rcases remembers.linked session known (Bool.and_eq_true_iff.mp live).1 with
      ⟨peer, time, latest⟩
    rcases remembers.recorded known latest live with ⟨connected, heard⟩
    rw [Session.isLive_iff_of_peer? connected, heard] at live
    exact ⟨peer, time, latest, live⟩
  · rintro ⟨peer, time, latest, recent⟩
    rcases remembers.attached peer time latest with ⟨found, there, heard, -, connected⟩
    cases known.symm.trans there
    rcases connected with connected | ⟨-, expired⟩
    · rw [Session.isLive_iff_of_peer? connected, heard]
      exact recent
    · exact absurd recent (Nat.not_le.mpr expired)

end Remembers

/-! ## Whole histories -/

namespace History

theorem cons {after : State Session} (history : History link origin (event :: events) after) :
    ∃ state, History link origin events state ∧ state.SameSeats event.state ∧
      ¬event.operation.Meddles ∧ after = event.next link := by
  cases history with
  | @step _ state registry earlier same operation indirect =>
      refine ⟨state, earlier, ⟨rfl, ?_, rfl⟩, indirect, rfl⟩
      exact Registry.lookup_of_perm same

theorem remembers (history : History link origin events state) (handle : Handle) :
    Remembers link handle events state := by
  induction history with
  | start => exact .start handle origin
  | @step events state registry earlier same operation indirect hypothesis =>
      have reordered : Remembers link handle events { state with registry := registry } :=
        hypothesis.of_same rfl rfl
      exact reordered.next (earlier.keyed.reordered same) (earlier.exclusive.reordered same) indirect

theorem agree {ones others : List Occurrence} {first second : State Session}
    (one : History link origin ones first) (other : History link origin others second)
    (agree : SessionOperation.AgreeOnPeers (ones.map Occurrence.operation)
      (others.map Occurrence.operation)) :
    first.SameSeats second ∧ ∀ handle peer time,
      AttachedLast link handle peer time ones ↔ AttachedLast link handle peer time others := by
  generalize listed : ones.map Occurrence.operation = operations at agree
  generalize relisted : others.map Occurrence.operation = replaced at agree
  induction agree generalizing ones others first second with
  | nil =>
      cases List.map_eq_nil_iff.mp listed
      cases List.map_eq_nil_iff.mp relisted
      cases one
      cases other
      exact ⟨⟨rfl, fun _ => rfl, rfl⟩, fun _ _ _ => Iff.rfl⟩
  | both operation earlier hypothesis =>
      rcases List.map_eq_cons_iff.mp listed with ⟨⟨left, _⟩, ones, rfl, rfl, tail⟩
      rcases List.map_eq_cons_iff.mp relisted with ⟨⟨right, _⟩, others, rfl, rfl, retail⟩
      rcases one.cons with ⟨_, history, same, indirect, rfl⟩
      rcases other.cons with ⟨_, rehistory, resame, -, rfl⟩
      rcases hypothesis history rehistory tail retail with ⟨seats, latest⟩
      have now : left.SameSeats right := (same.symm.trans seats).trans resame
      refine ⟨now.next indirect, ?_⟩
      intro handle peer time
      refine AttachedLast.cons_iff_of_same ?_ ?_ now.clock (latest handle peer time)
      · intro peer
        exact ⟨fun attaches => attaches.of_sameSeats now,
          fun attaches => attaches.of_sameSeats now.symm⟩
      · exact ⟨fun unseats => unseats.of_sameSeats now indirect,
          fun unseats => unseats.of_sameSeats now.symm indirect⟩
  | @packets _ _ packet changed source claims earlier hypothesis =>
      rcases List.map_eq_cons_iff.mp listed with ⟨⟨left, _⟩, ones, rfl, rfl, tail⟩
      rcases List.map_eq_cons_iff.mp relisted with ⟨⟨right, _⟩, others, rfl, rfl, retail⟩
      rcases one.cons with ⟨_, history, same, -, rfl⟩
      rcases other.cons with ⟨_, rehistory, resame, -, rfl⟩
      rcases hypothesis history rehistory tail retail with ⟨seats, latest⟩
      have now : left.SameSeats right := (same.symm.trans seats).trans resame
      refine ⟨now.of_both (State.sameTunnels_takePacket link.sink packet source left)
        (State.sameTunnels_takePacket link.sink changed source right), ?_⟩
      intro handle peer time
      refine AttachedLast.cons_iff_of_same ?_ ?_ now.clock (latest handle peer time)
      · intro peer
        constructor
        · intro attaches
          exact (attaches.of_sameSeats now).of_claims claims
        · intro attaches
          exact (attaches.of_sameSeats now.symm).of_claims fun here => (claims here).symm
      · exact iff_of_false Occurrence.not_unseats_packet Occurrence.not_unseats_packet
  | first passive earlier hypothesis =>
      rcases List.map_eq_cons_iff.mp listed with ⟨event, rest, rfl, rfl, tail⟩
      rcases one.cons with ⟨state, history, same, -, rfl⟩
      rcases hypothesis history other tail relisted with ⟨seats, latest⟩
      have rests := (SessionOperation.rests_apply link event.state passive).sameTunnels
      refine ⟨?_, ?_⟩
      · exact ((State.SameSeats.of_sameTunnels rests).symm.trans same.symm).trans seats
      · intro handle peer time
        rw [AttachedLast.cons_iff_of_isPassive passive]
        exact latest handle peer time
  | second passive earlier hypothesis =>
      rcases List.map_eq_cons_iff.mp relisted with ⟨event, rest, rfl, rfl, tail⟩
      rcases other.cons with ⟨state, history, same, -, rfl⟩
      rcases hypothesis one history listed tail with ⟨seats, latest⟩
      have rests := (SessionOperation.rests_apply link event.state passive).sameTunnels
      refine ⟨?_, ?_⟩
      · exact (seats.trans same).trans (.of_sameTunnels rests)
      · intro handle peer time
        rw [AttachedLast.cons_iff_of_isPassive passive]
        exact latest handle peer time

end History

/-- A session is connected if and only if an event attached it that was not followed by its removal
or displacement, and the latest such event is no older than a heartbeat interval and ten seconds.
Then its peer and the time it was heard from are those of that event.  Runs that differ only in what
is asked of sessions in between, and in packets that claim the same senders, leave it connected or
not alike. -/
theorem checkLive_iff_attached_lately (history : History link origin events state)
    (known : state.channels[handle]? = some session) :
    ((session.checkLive state.clock).2 = true ↔
        ∃ peer time, AttachedLast link handle peer time events ∧
          state.clock.now - time ≤ session.profile.heartbeatInterval + 10 * 1000000000) ∧
      (∀ peer time, AttachedLast link handle peer time events →
        (session.checkLive state.clock).2 = true →
          session.peer? = some peer ∧ session.lastReceived = time) ∧
      (∀ others second counterpart, History link origin others second →
        SessionOperation.AgreeOnPeers (events.map Occurrence.operation)
            (others.map Occurrence.operation) →
          second.channels[handle]? = some counterpart →
            (counterpart.checkLive second.clock).2 = (session.checkLive state.clock).2 ∧
              ((session.checkLive state.clock).2 = true →
                counterpart.peer? = session.peer? ∧
                  counterpart.lastReceived = session.lastReceived)) := by
  have remembers := history.remembers handle
  simp only [Session.snd_checkLive]
  refine ⟨remembers.isLive_iff known, ?_, ?_⟩
  · intro peer time latest live
    exact remembers.recorded known latest live
  · intro others second counterpart other agree there
    have remade := other.remembers handle
    rcases history.agree other agree with ⟨seats, latest⟩
    have profile : counterpart.profile = session.profile := by
      have same := congrArg (·[handle]?) seats.profiles
      simpa [State.profiles, known, there] using same
    have alike : counterpart.isLive second.clock = true ↔ session.isLive state.clock = true := by
      rw [remade.isLive_iff there, remembers.isLive_iff known, profile, seats.clock]
      simp only [latest]
    refine ⟨Bool.eq_iff_iff.mpr alike, ?_⟩
    intro live
    rcases (remembers.isLive_iff known).mp live with ⟨peer, time, attached, -⟩
    rcases remembers.recorded known attached live with ⟨connected, heard⟩
    rcases remade.recorded there ((latest handle peer time).mp attached) (alike.mpr live) with
      ⟨connectedThere, heardThere⟩
    rw [connected, connectedThere, heard, heardThere]
    exact ⟨rfl, rfl⟩

/-- A session that was installed with a peer is connected as long as seventy seconds later. -/
theorem connected_until_patience_ends :
    let peer : SocketAddress := .v4 Ipv4Address.unspecified 5072
    let install : SessionOperation := .common (.installOrReplace 0 "local" peer)
    let wait : SessionOperation := .common (.advance 70000000000)
    let made := ((SessionOperation.create Sample.record).apply Sample.localLink Sample.empty).1
    let installed := (install.apply Sample.localLink made).1
    let state := (wait.apply Sample.localLink installed).1
    let events : List Occurrence :=
      [⟨installed, wait⟩, ⟨made, install⟩, ⟨Sample.empty, .create Sample.record⟩]
    let session := Sample.connected Sample.record "local"
    History Sample.localLink Sample.empty.clock events state ∧
      state.channels[0]? = some session ∧
      AttachedLast Sample.localLink 0 peer 0 events ∧
      (session.checkLive state.clock).2 = true ∧ session.peer? = some peer := by
  intro peer install wait made installed state events session
  have origin : History Sample.localLink Sample.empty.clock [] Sample.empty := .start
  have creation : ¬SessionOperation.Meddles (.create Sample.record) := id
  have installation : ¬install.Meddles := id
  have waiting : ¬wait.Meddles := id
  have history : History Sample.localLink Sample.empty.clock events state :=
    ((origin.next creation).next installation).next waiting
  have known : state.channels[0]? = some session := rfl
  have latest : AttachedLast Sample.localLink 0 peer 0 events := by
    refine .before ?_ (Occurrence.not_unseats_of_registry rfl rfl) (.now (.installed ?_) rfl)
    · intro other attaches
      change Occurrence.Attaches 0 other ⟨installed, .common (.advance 70000000000)⟩ at attaches
      cases attaches
    · decide
  rcases checkLive_iff_attached_lately history known with ⟨connected, recorded, -⟩
  have live := connected.mpr ⟨peer, 0, latest, by decide⟩
  exact ⟨history, known, latest, live, (recorded peer 0 latest live).1⟩

end TunnelServer
