import TunnelServer.Proofs.Run.Pacing

/-!
# How far apart heartbeats are

A session records when it last packed a packet or was connected, and loses that record only together
with its link.  So a heartbeat, which a pass packs when the record is a heartbeat interval old, comes
that long after whatever was packed for the tunnel before, and after every connection of it, through
moves of the peer and times without a link.  And since a pass leaves no record older than that, no
record ever gets older than a heartbeat interval and the longest time without a pass.
-/

namespace TunnelServer

namespace Occurrence

/-- A heartbeat that an event packs comes at least a heartbeat interval after an earlier event that
connected its session or made it pack a packet, or did so to another session of the same tunnel. -/
def Spaced (event earlier : Occurrence) : Prop :=
  ∀ (handle other : Handle) (session twin : Session), event.isPass = true → event.Packs handle →
    event.state.channels[handle]? = some session →
    earlier.Refreshes other → earlier.state.channels[other]? = some twin →
    (other = handle ∨ twin.identity = session.identity) →
      earlier.state.clock.now + session.profile.heartbeatInterval ≤ event.state.clock.now

/-- The moments of the heartbeat passes, the latest first, and of the start. -/
def passTimes (origin : Clock) (events : List Occurrence) : List Instant :=
  ((events.filter isPass).map fun event => event.state.clock.now) ++ [origin.now]

/-- Up to a moment there was never more than a period from one pass, or the start, to the next pass, nor
is there from the latest one to that moment. -/
def PassesEvery (period : Nat) (origin : Clock) (now : Instant) (events : List Occurrence) : Prop :=
  (now :: passTimes origin events).IsChain fun later earlier => later - earlier ≤ period

end Occurrence

/-- No session with a peer has sent nothing for longer than its heartbeat interval and a period. -/
def State.SendsWithin (period : Nat) (state : State Session) : Prop :=
  ∀ (handle : Handle) (session : Session) (peer : SocketAddress),
    state.channels[handle]? = some session → session.peer? = some peer →
    state.clock.now - session.lastSent ≤ session.profile.heartbeatInterval + period

variable {link : LocalLink} {origin : Clock} {events : List Occurrence} {event : Occurrence}
variable {state : State Session} {handle : Handle} {session : Session}

/-! ## Whole histories -/

/-- No event that is past refreshed a session, or another one of the same tunnel, after the session last
sent, if the session has a link. -/
structure Timed (events : List Occurrence) (state : State Session) : Prop where
  past : ∀ event ∈ events, event.state.clock.now ≤ state.clock.now
  sent : ∀ event ∈ events, ∀ (handle other : Handle) (session twin : Session),
    state.channels[handle]? = some session → session.link.isSome →
    event.Refreshes other → event.state.channels[other]? = some twin →
    (other = handle ∨ twin.identity = session.identity) →
      event.state.clock.now ≤ session.lastSent

namespace Timed

variable {registry : Registry}

theorem start (state : State Session) : Timed [] state :=
  ⟨by simp, by simp⟩

theorem reordered (timed : Timed events state) :
    Timed events { state with registry := registry } :=
  ⟨timed.past, timed.sent⟩

/-- One event keeps up what the moments tell. -/
theorem next (timed : Timed events event.state) (keyed : event.state.Keyed)
    (exclusive : event.state.Exclusive) (indirect : ¬event.operation.CallsSession)
    (still : (event.next link).Exclusive) : Timed (event :: events) (event.next link) := by
  have meddles := SessionOperation.not_meddles indirect
  have later : event.state.clock.now ≤ (event.next link).clock.now := Occurrence.now_le_next meddles
  constructor
  · intro earlier member
    rcases List.mem_cons.mp member with rfl | before
    · exact later
    · exact Nat.le_trans (timed.past earlier before) later
  · intro earlier member handle other session twin known linked refreshes there akin
    rcases event.refreshed_or_kept keyed exclusive indirect known linked with
      ⟨-, sent⟩ | ⟨stale, previous, before, hadLink, profile, sent⟩
    · rw [sent]
      rcases List.mem_cons.mp member with rfl | past
      · exact Nat.le_refl _
      · exact timed.past earlier past
    · rcases List.mem_cons.mp member with rfl | past
      · have itself : other = handle := by
          rcases akin with equal | alike
          · exact equal
          · exact earlier.eq_of_refreshes keyed exclusive indirect still refreshes there known linked
              alike
        rw [itself] at refreshes
        exact absurd refreshes stale
      · have identity : session.identity = previous.identity := congrArg Profile.identity profile
        rw [identity] at akin
        rw [sent]
        exact timed.sent earlier past handle other previous twin before hadLink refreshes there akin

/-- What a pass finds due for a heartbeat has sent nothing for its heartbeat interval. -/
theorem spaced (timed : Timed events event.state) : ∀ earlier ∈ events, event.Spaced earlier := by
  intro earlier member handle other session twin pass packs known refreshes there akin
  rcases packs with ⟨packet, packed⟩
  rcases event with ⟨state, operation⟩
  cases operation with
  | heartbeatPass =>
      rcases (State.mem_heartbeats_iff known).mp packed with ⟨-, due⟩
      rcases Session.exists_due_iff.mp ⟨packet, due⟩ with ⟨linked, -, old⟩
      have sent := timed.sent earlier member handle other session twin known linked refreshes there
        akin
      have since : session.profile.heartbeatInterval ≤ state.clock.now - earlier.state.clock.now :=
        Nat.le_trans old (Nat.sub_le_sub_left sent state.clock.now)
      exact Nat.add_le_of_le_sub' (timed.past earlier member) since
  | _ => cases pass

end Timed

namespace State

theorem Keyed.map_handles (keyed : state.Keyed) :
    state.registry.handles.map (fun handle => state.channels[handle]?.map Session.identity) =
      state.registry.identities.map some := by
  rw [Registry.handles, Registry.identities, List.map_map, List.map_map]
  apply List.map_congr_left
  rintro ⟨identity, handle⟩ member
  rcases keyed identity handle (Registry.lookup_eq_some_iff.mpr member) with ⟨session, known, same⟩
  simp [known, same]

/-- A pass makes no two sessions of one tunnel pack a heartbeat. -/
theorem nodup_heartbeats (keyed : state.Keyed) :
    ((state.registry.handles.filterMap state.heartbeat?).map fun packed =>
      state.channels[packed.1]?.map Session.identity).Nodup := by
  have distinct : (state.registry.handles.map fun handle =>
      state.channels[handle]?.map Session.identity).Nodup := by
    rw [keyed.map_handles]
    exact state.registry.nodup.map (Option.some_injective Identity)
  rw [List.Nodup, List.pairwise_map] at distinct
  rw [List.Nodup, List.pairwise_map, List.pairwise_filterMap]
  refine distinct.imp ?_
  rintro one other apart ⟨first, packet⟩ beats ⟨second, another⟩ beatsToo
  rcases heartbeat?_eq_some_iff.mp beats with ⟨rfl, -⟩
  rcases heartbeat?_eq_some_iff.mp beatsToo with ⟨rfl, -⟩
  exact apart

/-- Every session with a link has sent since its heartbeat interval before a moment, which is not to
come. -/
structure SentSince (time : Instant) (state : State Session) : Prop where
  past : time ≤ state.clock.now
  sent : ∀ (handle : Handle) (session : Session), state.channels[handle]? = some session →
    session.link.isSome → time ≤ session.lastSent + session.profile.heartbeatInterval

namespace SentSince

variable {time : Instant}

theorem next (since : event.state.SentSince time) (keyed : event.state.Keyed)
    (exclusive : event.state.Exclusive) (indirect : ¬event.operation.CallsSession) :
    (event.next link).SentSince time := by
  have meddles := SessionOperation.not_meddles indirect
  refine ⟨Nat.le_trans since.past (Occurrence.now_le_next meddles), ?_⟩
  intro handle session known linked
  rcases event.refreshed_or_kept keyed exclusive indirect known linked with
    ⟨-, sent⟩ | ⟨-, previous, before, hadLink, profile, sent⟩
  · rw [sent]
    exact Nat.le_add_right_of_le since.past
  · rw [sent, profile]
    exact since.sent handle previous before hadLink

theorem pass (keyed : state.Keyed) (exclusive : state.Exclusive) :
    state.heartbeatPass.1.SentSince state.clock.now := by
  have swept := (visits_heartbeatPass keyed).sweeps
  refine ⟨Nat.le_of_eq (congrArg Clock.now swept.clock).symm, ?_⟩
  intro handle session known linked
  by_cases member : handle ∈ state.registry.handles
  · rcases Registry.mem_handles_iff.mp member with ⟨identity, mapped⟩
    rcases keyed identity handle mapped with ⟨before, there, -⟩
    cases known.symm.trans (swept.getElem?_of_mapped member there)
    have settled := (Session.passed_settled linked).2
    rw [Session.profile_passed]
    rcases settled with recent | now
    · exact Nat.sub_le_iff_le_add'.mp (Nat.le_of_lt recent)
    · rw [now]
      exact Nat.le_add_right _ _
  · have untouched := swept.channels handle
    rw [if_neg member, known] at untouched
    rw [exclusive.unlinked untouched.symm member] at linked
    cases linked

theorem sendsWithin (since : state.SentSince time) {period : Nat}
    (lately : state.clock.now - time ≤ period) : state.SendsWithin period := by
  intro handle session peer known connected
  have linked : session.link.isSome := by
    rcases Option.map_eq_some_iff.mp connected with ⟨link, linked, -⟩
    rw [linked]
    rfl
  rw [Nat.sub_le_iff_le_add'] at lately ⊢
  calc
    state.clock.now ≤ time + period := lately
    _ ≤ session.lastSent + session.profile.heartbeatInterval + period :=
      Nat.add_le_add_right (since.sent handle session known linked) period
    _ = session.lastSent + (session.profile.heartbeatInterval + period) := Nat.add_assoc _ _ _

end SentSince

end State

theorem Occurrence.passTimes_cons (origin : Clock) (event : Occurrence) (earlier : List Occurrence) :
    passTimes origin (event :: earlier) =
      if event.isPass then event.state.clock.now :: passTimes origin earlier
      else passTimes origin earlier := by
  simp only [passTimes, List.filter_cons]
  split <;> rfl

namespace History

theorem timed (history : History link origin events state)
    (indirect : ∀ event ∈ events, ¬event.operation.CallsSession) : Timed events state := by
  induction history with
  | start => exact .start _
  | step earlier same operation meddles hypothesis =>
      rw [List.forall_mem_cons] at indirect
      have timed := hypothesis indirect.2
      exact timed.reordered.next (earlier.keyed.reordered same) (earlier.exclusive.reordered same)
        indirect.1 (earlier.step same operation meddles).exclusive

theorem spaced (history : History link origin events state)
    (indirect : ∀ event ∈ events, ¬event.operation.CallsSession) :
    events.Pairwise Occurrence.Spaced := by
  induction history with
  | start => exact .nil
  | step earlier same operation meddles hypothesis =>
      rw [List.forall_mem_cons] at indirect
      exact .cons (earlier.timed indirect.2).reordered.spaced (hypothesis indirect.2)

theorem keyed_of_mem (history : History link origin events state) (member : event ∈ events) :
    event.state.Keyed := by
  induction history with
  | start => cases member
  | step earlier same operation meddles hypothesis =>
      rcases List.mem_cons.mp member with rfl | before
      · exact earlier.keyed.reordered same
      · exact hypothesis before

/-- Since the latest pass, or the start, every session with a link has sent lately. -/
theorem sentSince (history : History link origin events state)
    (indirect : ∀ event ∈ events, ¬event.operation.CallsSession) {latest : Instant}
    {others : List Instant} (passes : Occurrence.passTimes origin events = latest :: others) :
    state.SentSince latest := by
  induction history generalizing latest others with
  | start =>
      cases passes
      exact ⟨Nat.le_refl _, fun handle session known => by cases known⟩
  | @step events state registry earlier same operation meddles hypothesis =>
      let event : Occurrence := ⟨{ state with registry := registry }, operation⟩
      rw [List.forall_mem_cons] at indirect
      have keyed : event.state.Keyed := earlier.keyed.reordered same
      have exclusive : event.state.Exclusive := earlier.exclusive.reordered same
      change Occurrence.passTimes origin (event :: events) = latest :: others at passes
      change (event.next link).SentSince latest
      cases pass : event.isPass with
      | true =>
          rw [Occurrence.passTimes_cons, pass, if_pos rfl, List.cons.injEq] at passes
          rw [← passes.1]
          cases operation with
          | heartbeatPass => exact .pass keyed exclusive
          | _ => cases pass
      | false =>
          rw [Occurrence.passTimes_cons, pass, if_neg Bool.false_ne_true] at passes
          have since : state.SentSince latest := hypothesis indirect.2 passes
          have reordered : event.state.SentSince latest := ⟨since.past, since.sent⟩
          exact reordered.next keyed exclusive indirect.1

variable {period : Nat}

theorem sendsWithin (history : History link origin events state)
    (indirect : ∀ event ∈ events, ¬event.operation.CallsSession)
    (often : Occurrence.PassesEvery period origin state.clock.now events) :
    state.SendsWithin period := by
  cases passes : Occurrence.passTimes origin events with
  | nil => simp [Occurrence.passTimes] at passes
  | cons latest others =>
      rw [Occurrence.PassesEvery, passes, List.isChain_cons_cons] at often
      exact (history.sentSince indirect passes).sendsWithin often.1

/-- Passes that were frequent up to some time after an event were so up to the event. -/
theorem passesEvery_of_cons {now : Instant} (later : event.state.clock.now ≤ now)
    (often : Occurrence.PassesEvery period origin now (event :: events)) :
    Occurrence.PassesEvery period origin event.state.clock.now events := by
  rw [Occurrence.PassesEvery, Occurrence.passTimes_cons] at often
  rw [Occurrence.PassesEvery]
  split at often
  · rw [List.isChain_cons_cons] at often
    exact often.2
  · cases passes : Occurrence.passTimes origin events with
    | nil => exact .singleton _
    | cons latest others =>
        rw [passes, List.isChain_cons_cons] at often
        rw [List.isChain_cons_cons]
        exact ⟨Nat.le_trans (Nat.sub_le_sub_right later latest) often.1, often.2⟩

theorem sendsWithin_of_mem (history : History link origin events state)
    (indirect : ∀ event ∈ events, ¬event.operation.CallsSession)
    (often : Occurrence.PassesEvery period origin state.clock.now events)
    (member : event ∈ events) : event.state.SendsWithin period := by
  induction history with
  | start => cases member
  | @step events state registry earlier same operation meddles hypothesis =>
      let latest : Occurrence := ⟨{ state with registry := registry }, operation⟩
      have later : latest.state.clock.now ≤ (latest.next link).clock.now :=
        Occurrence.now_le_next meddles
      have before := passesEvery_of_cons later often
      rw [List.forall_mem_cons] at indirect
      rcases List.mem_cons.mp member with rfl | past
      · exact earlier.sendsWithin indirect.2 before
      · exact hypothesis indirect.2 before past

end History

/-- Over any history without calls past the registry and the pumps, each heartbeat that a pass makes a
session pack comes at least the session's heartbeat interval after every earlier packet that it packed
and every earlier connection of it, and so for all sessions of one tunnel together, no two of which
pack a heartbeat in one pass.  What is packed is what is sent, but for packets whose peers are down.
If there is never more than a period between two passes, the start and the present counting as passes,
then at every point no session with a peer has sent nothing for longer than its heartbeat interval and
that period. -/
theorem heartbeats_keep_their_distance (history : History link origin events state)
    (indirect : ∀ event ∈ events, ¬event.operation.CallsSession) :
    events.Pairwise Occurrence.Spaced ∧
      (∀ event ∈ events, event.isPass = true →
        (event.packets.map fun packed =>
          event.state.channels[packed.1]?.map Session.identity).Nodup) ∧
      (∀ event ∈ events, event.state.Sends (event.packets.map Prod.snd) (event.next link)) ∧
      ∀ period, Occurrence.PassesEvery period origin state.clock.now events →
        state.SendsWithin period ∧ ∀ event ∈ events, event.state.SendsWithin period := by
  refine ⟨history.spaced indirect, ?_, ?_, ?_⟩
  · intro event member pass
    have keyed := history.keyed_of_mem member
    rcases event with ⟨state, operation⟩
    cases operation with
    | heartbeatPass => exact State.nodup_heartbeats keyed
    | _ => cases pass
  · intro event member
    exact Occurrence.sends_next (history.keyed_of_mem member) (indirect event member)
  · intro period often
    refine ⟨history.sendsWithin indirect often, ?_⟩
    intro event member
    exact history.sendsWithin_of_mem indirect often member

/-- A session sends its first heartbeat a minute after it was connected. -/
theorem heartbeat_follows_connection :
    let peer : SocketAddress := .v4 Ipv4Address.unspecified 5072
    let making : Occurrence := ⟨Sample.empty, .create Sample.record⟩
    let connecting : Occurrence :=
      ⟨making.next Sample.localLink, .common (.installOrReplace 0 "local" peer)⟩
    let waiting : Occurrence :=
      ⟨connecting.next Sample.localLink, .common (.advance 60000000000)⟩
    let pass : Occurrence := ⟨waiting.next Sample.localLink, .heartbeatPass⟩
    let state := pass.next Sample.localLink
    let events := [pass, waiting, connecting, making]
    History Sample.localLink Sample.empty.clock events state ∧
      (∀ event ∈ events, ¬event.operation.CallsSession) ∧
      connecting.Connects 0 ∧ pass.Packs 0 ∧
      connecting.state.clock.now + 60000000000 ≤ pass.state.clock.now ∧
      Occurrence.passTimes Sample.empty.clock events = [60000000000, 0] ∧
      state.SendsWithin 60000000000 := by
  intro peer making connecting waiting pass state events
  have origin : History Sample.localLink Sample.empty.clock [] Sample.empty := .start
  have creation : ¬making.operation.Meddles := id
  have history : History Sample.localLink Sample.empty.clock events state :=
    (((origin.next creation).next id).next id).next id
  have indirect : ∀ event ∈ events, ¬event.operation.CallsSession := by
    simp only [events, List.forall_mem_cons, List.not_mem_nil, false_imp_iff, implies_true, and_true]
    exact ⟨id, id, id, id⟩
  have known : pass.state.channels[0]? = some (Sample.connected Sample.record "local") := rfl
  have connects : connecting.Connects 0 := .installed (by decide)
  have handles : pass.state.registry.handles = [0] := rfl
  have due : ∃ packet, (Sample.connected Sample.record "local").finding pass.state.clock =
      .due packet := Session.exists_due_iff.mpr ⟨rfl, by decide, by decide⟩
  have packs : pass.Packs 0 := by
    rcases due with ⟨packet, due⟩
    refine ⟨packet, (State.mem_heartbeats_iff known).mpr ⟨?_, due⟩⟩
    rw [handles]
    exact List.mem_cons_self
  have times : Occurrence.passTimes Sample.empty.clock events = [60000000000, 0] := by decide
  rcases heartbeats_keep_their_distance history indirect with ⟨spaced, -, -, often⟩
  refine ⟨history, indirect, connects, packs, ?_, times, ?_⟩
  · have apart : pass.Spaced connecting :=
      List.rel_of_pairwise_cons spaced (by simp)
    exact apart 0 0 _ Sample.session rfl packs known (.inl connects) rfl (.inl rfl)
  · refine (often 60000000000 ?_).1
    rw [Occurrence.PassesEvery, times]
    decide

end TunnelServer
