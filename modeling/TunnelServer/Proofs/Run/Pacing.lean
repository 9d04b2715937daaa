import TunnelServer.Proofs.Run.Packing

/-!
# What refreshes a session

A session records when it last packed a packet or was connected.  An event that does neither leaves
that record as it is, or takes the session's link away; one that does sets it to the present and leaves
the session with a link.
-/

namespace TunnelServer

/-- A session that is refreshed has a link afterwards, and last sent just now.  One that is not keeps
its link and the moment at which it last sent, or has no link afterwards. -/
structure Session.Paced (clock : Clock) (refreshed : Prop) (before after : Session) : Prop where
  profile : after.profile = before.profile
  fresh : refreshed → after.link.isSome ∧ after.lastSent = clock.now
  stale : ¬refreshed → after.link.isSome →
    before.link.isSome ∧ after.lastSent = before.lastSent

namespace Occurrence

/-- An event connects a session, or connects it anew: the session is installed with a peer, or it is
mapped to the identity that a packet claims to come from and is not live with the source. -/
inductive Connects (handle : Handle) : Occurrence → Prop where
  | installed {state : State Session} {sink : Sink} {peer : SocketAddress}
      (known : handle < state.channels.length) :
      Connects handle ⟨state, .common (.installOrReplace handle sink peer)⟩
  | arrived {state : State Session} {bytes : Bytes} {source : SocketAddress} {identity : Identity}
      {session : Session}
      (claimed : Packet.claimedSender? bytes state.clock.epoch = some identity)
      (mapped : state.registry.lookup identity = some handle)
      (known : state.channels[handle]? = some session)
      (apart : session.isLiveWith state.clock source = false) :
      Connects handle ⟨state, .common (.packet bytes source)⟩

/-- An event makes a session pack a packet. -/
def Packs (handle : Handle) (event : Occurrence) : Prop :=
  ∃ packet, (handle, packet) ∈ event.packets

/-- An event connects a session or makes it pack a packet. -/
def Refreshes (handle : Handle) (event : Occurrence) : Prop :=
  event.Connects handle ∨ event.Packs handle

end Occurrence

variable {link : LocalLink} {event : Occurrence} {state : State Session} {handle : Handle}
variable {session : Session}

/-! ## One session -/

namespace Session

variable {clock : Clock} {refreshed : Prop} {before after : Session}

namespace Paced

theorem identity (paced : before.Paced clock refreshed after) : after.identity = before.identity :=
  congrArg Profile.identity paced.profile

theorem kept (stale : ¬refreshed) : session.Paced clock refreshed session :=
  ⟨rfl, fun fresh => absurd fresh stale, fun _ linked => ⟨linked, rfl⟩⟩

theorem unlinked (stale : ¬refreshed) (profile : after.profile = before.profile)
    (unlinked : after.link = none) : before.Paced clock refreshed after := by
  refine ⟨profile, fun fresh => absurd fresh stale, ?_⟩
  intro _ linked
  rw [unlinked] at linked
  cases linked

theorem renewed (fresh : refreshed) (profile : after.profile = before.profile)
    (linked : after.link.isSome) (now : after.lastSent = clock.now) :
    before.Paced clock refreshed after :=
  ⟨profile, fun _ => ⟨linked, now⟩, fun stale => absurd fresh stale⟩

theorem checked (stale : ¬refreshed) :
    session.Paced clock refreshed (session.checkLive clock).1 := by
  rw [fst_checkLive]
  cases session.hasExpired clock with
  | true => exact .unlinked stale rfl rfl
  | false => exact .kept stale

end Paced

theorem paced_accept {packet : Bytes} (localSink : Sink) (source : SocketAddress)
    (enough : Packet.headerLength ≤ packet.length)
    (refreshes : refreshed ↔ session.isLiveWith clock source = false) :
    session.Paced clock refreshed (Channel.accept clock localSink source packet session).1 := by
  have profile : (Channel.accept clock localSink source packet session).1.profile =
      session.profile :=
    (session.attached_accept clock localSink source enough).profile
  rw [accept_eq session enough] at profile ⊢
  cases live : session.isLiveWith clock source with
  | true =>
      have stale : ¬refreshed := by
        rw [refreshes, live]
        exact Bool.noConfusion
      have stays : session.followed clock localSink source = session := by
        rw [followed, if_pos live]
      refine ⟨profile, fun fresh => absurd fresh stale, ?_⟩
      intro _ linked
      rw [stays] at linked ⊢
      rw [link_receive] at linked
      exact ⟨linked, lastSent_receive clock packet session⟩
  | false =>
      refine .renewed (refreshes.mpr live) profile ?_ ?_
      · rw [link_receive, link_followed]
        rfl
      · rw [lastSent_receive, followed, live]
        rfl

theorem paced_passed (refreshes : refreshed ↔ ∃ packet, session.finding clock = .due packet) :
    session.Paced clock refreshed (session.passed clock) := by
  simp only [passed]
  cases found : session.finding clock with
  | due packet =>
      refine .renewed (refreshes.mpr ⟨packet, found⟩) rfl ?_ rfl
      cases linked : session.link with
      | none =>
          rw [finding_of_unlinked linked] at found
          cases found
      | some link => exact rfl
  | expired => exact .unlinked (by simp [refreshes, found]) rfl rfl
  | unlinked => exact .kept (by simp [refreshes, found])
  | quiet => exact .kept (by simp [refreshes, found])

end Session

/-! ## One event -/

namespace State

variable {after : State Session} {identity : Identity}

/-- A row of datagrams makes a mapped session pack a packet if one of them is for its tunnel and the
session packs that. -/
theorem carried_iff_any (keyed : state.Keyed) (mapped : state.registry.lookup identity = some handle)
    (known : state.channels[handle]? = some session) (datagrams : List Bytes) :
    (∃ packet, (handle, packet) ∈ datagrams.filterMap state.carried?) ↔
      ((Datagram.destinedFor identity datagrams).any fun datagram =>
        (session.packet? state.clock datagram).isSome) = true := by
  rw [List.any_eq_true]
  constructor
  · rintro ⟨packet, packed⟩
    rcases List.mem_filterMap.mp packed with ⟨datagram, among, carried⟩
    rcases carried?_eq_some_iff.mp carried with ⟨found, owner, destination, there, same, packing⟩
    cases known.symm.trans same
    rw [keyed.injective there mapped] at destination
    refine ⟨datagram, List.mem_filter.mpr ⟨among, decide_eq_true destination⟩, ?_⟩
    rw [packing]
    rfl
  · rintro ⟨datagram, mine, packed⟩
    rcases List.mem_filter.mp mine with ⟨among, destination⟩
    rcases Option.isSome_iff_exists.mp packed with ⟨packet, packing⟩
    refine ⟨packet, List.mem_filterMap.mpr ⟨datagram, among, ?_⟩⟩
    exact carried?_eq_some_iff.mpr
      ⟨identity, session, of_decide_eq_true destination, mapped, known, packing⟩

theorem mem_heartbeats_iff {packet : Transmission} {handles : List Handle}
    (known : state.channels[handle]? = some session) :
    (handle, packet) ∈ handles.filterMap state.heartbeat? ↔
      handle ∈ handles ∧ session.finding state.clock = .due packet := by
  rw [List.mem_filterMap]
  constructor
  · rintro ⟨other, among, beats⟩
    rcases heartbeat?_eq_some_iff.mp beats with ⟨rfl, found, there, due⟩
    cases known.symm.trans there
    exact ⟨among, due⟩
  · rintro ⟨among, due⟩
    exact ⟨handle, among, heartbeat?_eq_some_iff.mpr ⟨rfl, session, known, due⟩⟩

theorem Carries.paced {datagrams : List Bytes} (carries : Carries datagrams state after)
    (keyed : state.Keyed) (exclusive : state.Exclusive)
    (known : state.channels[handle]? = some session) :
    ∃ paced, after.channels[handle]? = some paced ∧
      session.Paced state.clock (∃ packet, (handle, packet) ∈ datagrams.filterMap state.carried?)
        paced := by
  by_cases member : handle ∈ state.registry.handles
  · rcases Registry.mem_handles_iff.mp member with ⟨identity, mapped⟩
    refine ⟨_, carries.mapped identity handle session mapped known, ?_⟩
    rw [carried_iff_any keyed mapped known]
    cases live : session.isLive state.clock with
    | true =>
        rw [Session.carryEach_of_isLive live]
        split
        · rename_i packing
          exact .renewed packing rfl (Bool.and_eq_true_iff.mp live).1 rfl
        · rename_i idle
          exact .kept idle
    | false =>
        have idle : ¬((Datagram.destinedFor identity datagrams).any fun datagram =>
            (session.packet? state.clock datagram).isSome) = true := by
          simp [Session.packet?, live]
        by_cases none : Datagram.destinedFor identity datagrams = []
        · rw [none] at idle ⊢
          exact .kept idle
        · rw [Session.carryEach_of_not_isLive live none]
          exact .unlinked idle rfl rfl
  · rcases carries.rests.sessions handle session known with ⟨rested, found, rests⟩
    refine ⟨rested, found, .unlinked ?_ rests.profile ?_⟩
    · rintro ⟨packet, packed⟩
      rcases List.mem_filterMap.mp packed with ⟨datagram, -, carried⟩
      rcases carried?_eq_some_iff.mp carried with ⟨identity, -, -, mapped, -⟩
      exact member (Registry.mem_handles_iff.mpr ⟨identity, mapped⟩)
    · exact rests.unlinked (exclusive.unlinked known member)

/-- A sweep that checks every session refreshes none. -/
theorem Sweeps.paced {refreshed : Prop} {handles : List Handle}
    (sweeps : Sweeps (fun session => (session.checkLive state.clock).1) handles state after)
    (stale : ¬refreshed) (known : state.channels[handle]? = some session) :
    ∃ paced, after.channels[handle]? = some paced ∧
      session.Paced state.clock refreshed paced := by
  rw [sweeps.channels, known]
  split
  · exact ⟨_, rfl, .checked stale⟩
  · exact ⟨session, rfl, .kept stale⟩

theorem paced_heartbeatPass (keyed : state.Keyed)
    (known : state.channels[handle]? = some session) :
    ∃ paced, state.heartbeatPass.1.channels[handle]? = some paced ∧
      session.Paced state.clock
        (∃ packet, (handle, packet) ∈ state.registry.handles.filterMap state.heartbeat?) paced := by
  rw [(visits_heartbeatPass keyed).sweeps.channels, known]
  simp only [mem_heartbeats_iff known]
  split
  · rename_i member
    refine ⟨_, rfl, Session.paced_passed ?_⟩
    simp only [member, true_and]
  · rename_i absent
    refine ⟨session, rfl, .kept ?_⟩
    rintro ⟨packet, member, -⟩
    exact absent member

end State

namespace Occurrence

theorem Connects.attaches (connects : event.Connects handle) :
    ∃ peer, event.Attaches handle peer := by
  cases connects with
  | @installed _ _ peer known => exact ⟨peer, .installed known⟩
  | @arrived _ _ source _ _ claimed mapped => exact ⟨source, .arrived claimed mapped⟩

theorem packets_of_isActive (active : event.operation.IsActive) : event.packets = [] := by
  rcases event with ⟨state, operation⟩
  cases active <;> rfl

theorem refreshes_iff_connects (silent : event.packets = []) :
    event.Refreshes handle ↔ event.Connects handle := by
  simp [Refreshes, Packs, silent]

theorem refreshes_iff_packs (passive : event.operation.IsPassive) :
    event.Refreshes handle ↔ event.Packs handle := by
  refine or_iff_right ?_
  intro connects
  rcases connects.attaches with ⟨peer, attaches⟩
  exact not_attaches_of_isPassive passive peer attaches

theorem paced_of_isActive (keyed : event.state.Keyed) (exclusive : event.state.Exclusive)
    (active : event.operation.IsActive) (known : event.state.channels[handle]? = some session) :
    ∃ paced, (event.next link).channels[handle]? = some paced ∧
      session.Paced event.state.clock (event.Refreshes handle) paced := by
  rw [refreshes_iff_connects (packets_of_isActive active)]
  by_cases attached : ∃ peer, event.Attaches handle peer
  · rcases attached with ⟨peer, attaches⟩
    cases attaches with
    | @installed state sink bound =>
        refine ⟨_, State.getElem?_installOrReplace keyed exclusive known sink peer, ?_⟩
        exact .renewed (.installed bound) rfl rfl rfl
    | @arrived state bytes identity claimed mapped =>
        refine ⟨_, State.getElem?_takePacket_of_claimed link.sink peer claimed mapped known, ?_⟩
        apply Session.paced_accept link.sink peer (State.length_of_claimedSender? claimed)
        constructor
        · intro connects
          cases connects with
          | arrived _ _ there apart =>
              cases known.symm.trans there
              exact apart
        · exact .arrived claimed mapped known
  · have apart := not_exists.mp attached
    have stale : ¬event.Connects handle := fun connects => attached connects.attaches
    have reseats : event.state.Reseats handle (event.stages link) (event.next link) :=
      event.reseats keyed exclusive active apart
    by_cases seated : ∀ stage ∈ event.stages link, handle ∈ stage.registry.handles
    · exact ⟨session, reseats.kept session known seated, .kept stale⟩
    · push Not at seated
      exact ⟨session.close, reseats.lost session known (.inr seated), .unlinked stale rfl rfl⟩

theorem paced_of_isPassive (keyed : event.state.Keyed) (exclusive : event.state.Exclusive)
    (passive : event.operation.IsPassive) (indirect : ¬event.operation.CallsSession)
    (known : event.state.channels[handle]? = some session) :
    ∃ paced, (event.next link).channels[handle]? = some paced ∧
      session.Paced event.state.clock (event.Refreshes handle) paced := by
  rw [refreshes_iff_packs passive]
  rcases event with ⟨state, operation⟩
  have silent : ∀ {event : Occurrence}, event.packets = [] → ¬event.Packs handle := by
    intro event none
    simp [Packs, none]
  cases operation with
  | common operation =>
      cases operation with
      | outages present => exact ⟨session, known, .kept (silent rfl)⟩
      | connectedCount => exact (State.sweeps_connectedCount keyed).paced (silent rfl) known
      | localRead bytes =>
          exact (State.carries_takeRead link.unhandled keyed bytes).paced keyed exclusive known
      | localStream stopping input =>
          exact (State.carries_takeStream link.unhandled keyed stopping input).paced keyed exclusive
            known
      | _ => first | exact absurd trivial indirect | exact passive.elim
  | beat handle => exact absurd trivial indirect
  | heartbeatPass => exact State.paced_heartbeatPass keyed known
  | survey => exact (State.sweeps_survey keyed).paced (silent rfl) known
  | _ => exact passive.elim

/-- What an event makes of a session: if it refreshes the session, that has sent just now, and if it
does not, a session that has a link had it before and last sent when it did. -/
theorem paced (keyed : event.state.Keyed) (exclusive : event.state.Exclusive)
    (indirect : ¬event.operation.CallsSession)
    (known : event.state.channels[handle]? = some session) :
    ∃ paced, (event.next link).channels[handle]? = some paced ∧
      session.Paced event.state.clock (event.Refreshes handle) paced := by
  rcases SessionOperation.isPassive_or_isActive (SessionOperation.not_meddles indirect) with
    passive | active
  · exact paced_of_isPassive keyed exclusive passive indirect known
  · exact paced_of_isActive keyed exclusive active known

/-- A session that has a link after an event was refreshed by it, or had a link before and has sent
nothing in it. -/
theorem refreshed_or_kept (keyed : event.state.Keyed) (exclusive : event.state.Exclusive)
    (indirect : ¬event.operation.CallsSession)
    (known : (event.next link).channels[handle]? = some session) (linked : session.link.isSome) :
    event.Refreshes handle ∧ session.lastSent = event.state.clock.now ∨
      ¬event.Refreshes handle ∧ ∃ previous, event.state.channels[handle]? = some previous ∧
        previous.link.isSome ∧ session.profile = previous.profile ∧
        session.lastSent = previous.lastSent := by
  cases before : event.state.channels[handle]? with
  | none =>
      rw [unlinked_of_new keyed exclusive (SessionOperation.not_meddles indirect) before known]
        at linked
      cases linked
  | some previous =>
      rcases event.paced keyed exclusive indirect before with ⟨found, same, paced⟩
      cases known.symm.trans same
      by_cases fresh : event.Refreshes handle
      · exact .inl ⟨fresh, (paced.fresh fresh).2⟩
      · rcases paced.stale fresh linked with ⟨hadLink, sent⟩
        exact .inr ⟨fresh, previous, rfl, hadLink, paced.profile, sent⟩

/-- Of all sessions of one tunnel an event can refresh only the one that has a link afterwards. -/
theorem eq_of_refreshes {other : Handle} {twin : Session} (keyed : event.state.Keyed)
    (exclusive : event.state.Exclusive) (indirect : ¬event.operation.CallsSession)
    (still : (event.next link).Exclusive) (refreshes : event.Refreshes other)
    (there : event.state.channels[other]? = some twin)
    (known : (event.next link).channels[handle]? = some session) (linked : session.link.isSome)
    (akin : twin.identity = session.identity) : other = handle := by
  rcases event.paced keyed exclusive indirect there with ⟨renewed, held, paced⟩
  have mapped := still handle session known linked
  have mappedTwin := still other renewed held (paced.fresh refreshes).1
  rw [paced.identity, akin, mapped] at mappedTwin
  exact (Option.some.inj mappedTwin).symm

end Occurrence

end TunnelServer
