import TunnelServer.Proofs.Run.Arrival
import TunnelServer.Proofs.Session.Counting

/-!
# A packet is checked twice

The header of a packet is read without a key to find the session that the packet claims to belong to.
That session then points itself at the source and reads the header again, before it looks at anything
else.  The registry maps an identity to no session but its own, so the second reading cannot come out
differently, and the sender is one that the session accepts.  All that is left to find fault with is
the signature, the payload, and what the packet asks for.
-/

namespace TunnelServer

namespace Packet

variable {packet : Bytes} {key : SharedKey} {accepted : List Identity} {here : Epoch}
variable {limits : Limits} {header : Header}

/-- What can be wrong with a packet whose header is in order.  It is not signed with the key, or its
payload is said to be IPv6 and does not start like it, or it asks for nothing that a tunnel does. -/
inductive Flawed (packet : Bytes) (key : SharedKey) (header : Header) : Prop where
  | forged
      (other : signature (packet.take 24) key (packet.drop 44) ≠ (packet.drop 24).take 20)
  | otherVersion (first : UInt8) (rest : Bytes) (said : header.nextHeader = .ipv6)
      (starts : packet.drop 44 = first :: rest) (other : Nibble.high first ≠ 6)
  | noVersion (said : header.nextHeader = .ipv6) (empty : packet.drop 44 = [])
  | unhandled (notAlive : header.opcode ≠ .noop) (notForward : header.opcode ≠ .forward)
  | nothingForwarded (forward : header.opcode = .forward) (empty : packet.drop 44 = [])

/-- A header that was read is read again at every moment that is close enough to its stamp. -/
theorem readHeader_again (read : readHeader packet here limits = .ok header) {there : Epoch}
    (close : (there.toInt - header.epoch.toInt).natAbs ≤ limits.maxClockSkew) :
    readHeader packet there limits = .ok header := by
  rcases readHeader_eq_ok_iff.mp read with ⟨enough, small, start, -⟩
  exact readHeader_eq_ok_iff.mpr ⟨enough, small, start, Limits.acceptsSkew_iff.mpr close⟩

/-- A packet whose header is in order and whose sender is accepted is verified if it is signed with the
key and its payload is what it is said to be; it cannot be refused for anything else. -/
theorem verify_of_readHeader (read : readHeader packet here limits = .ok header)
    (known : header.sender ∈ accepted) :
    verify packet key accepted here limits =
      if signature (packet.take 24) key (packet.drop 44) ≠ (packet.drop 24).take 20 then
        .error .signatureMismatch
      else if header.nextHeader = .ipv6 ∧ versionOf? (packet.drop 44) ≠ some 6 then
        .error (.payloadNotIpv6 (versionOf? (packet.drop 44)))
      else .ok ⟨header, packet.drop 44⟩ := by
  simp only [verify, read, if_neg (not_not.mpr known)]
  rfl

theorem verify_eq_ok_iff_of_readHeader (read : readHeader packet here limits = .ok header)
    (known : header.sender ∈ accepted) {verified : Verified} :
    verify packet key accepted here limits = .ok verified ↔
      verified = ⟨header, packet.drop 44⟩ ∧
        signature (packet.take 24) key (packet.drop 44) = (packet.drop 24).take 20 ∧
        (header.nextHeader = .ipv6 → versionOf? (packet.drop 44) = some 6) := by
  rw [verify_of_readHeader read known]
  constructor
  · intro admitted
    split at admitted
    · cases admitted
    rename_i signed
    split at admitted
    · cases admitted
    rename_i version
    cases admitted
    exact ⟨rfl, not_not.mp signed, fun said => not_not.mp fun other => version ⟨said, other⟩⟩
  · rintro ⟨rfl, signed, version⟩
    rw [if_neg (not_not.mpr signed), if_neg fun said => said.2 (version said.1)]

/-- Without a flaw a packet is signed with the key, its payload is what it is said to be, and a tunnel
can use it. -/
theorem not_flawed_iff :
    ¬Flawed packet key header ↔
      signature (packet.take 24) key (packet.drop 44) = (packet.drop 24).take 20 ∧
        (header.nextHeader = .ipv6 → versionOf? (packet.drop 44) = some 6) ∧
        Verified.Usable ⟨header, packet.drop 44⟩ := by
  constructor
  · intro flawless
    refine ⟨not_not.mp fun other => flawless (.forged other), fun said => ?_, ?_⟩
    · rw [versionOf?_eq_six_iff]
      cases starts : packet.drop 44 with
      | nil => exact absurd (.noVersion said starts) flawless
      | cons first rest =>
          refine ⟨first, rest, rfl, not_not.mp fun other => ?_⟩
          exact flawless (.otherVersion first rest said starts other)
    · by_cases alive : header.opcode = .noop
      · exact .inl alive
      · refine .inr ⟨?_, ?_⟩
        · exact not_not.mp fun notForward => flawless (.unhandled alive notForward)
        · intro empty
          refine flawless (.nothingForwarded (not_not.mp fun notForward => ?_) empty)
          exact flawless (.unhandled alive notForward)
  · rintro ⟨signed, version, usable⟩ flaw
    cases flaw with
    | forged other => exact other signed
    | otherVersion first rest said starts other =>
        rcases versionOf?_eq_six_iff.mp (version said) with ⟨head, tail, same, six⟩
        rw [starts] at same
        cases same
        exact other six
    | noVersion said empty =>
        rcases versionOf?_eq_six_iff.mp (version said) with ⟨head, tail, same, -⟩
        rw [empty] at same
        cases same
    | unhandled notAlive notForward =>
        rcases usable with alive | ⟨forward, -⟩
        · exact notAlive alive
        · exact notForward forward
    | nothingForwarded forward empty =>
        rcases usable with alive | ⟨-, filled⟩
        · rw [forward] at alive
          cases alive
        · exact filled empty

end Packet

/-- A tunnel cannot use a packet with a header and a sender in order if and only if it has a flaw. -/
theorem Profile.judge_eq_invalid_iff {profile : Profile} {here : Epoch} {packet : Bytes}
    {header : Packet.Header}
    (read : Packet.readHeader packet here Packet.Limits.standard = .ok header)
    (known : header.sender ∈ profile.senders) :
    profile.judge here packet = .invalid ↔ Packet.Flawed packet profile.key header := by
  rw [← not_iff_not]
  refine profile.judge_ne_invalid_iff.trans (Iff.trans ?_ Packet.not_flawed_iff.symm)
  constructor
  · rintro ⟨verified, admitted, usable⟩
    rcases (Packet.verify_eq_ok_iff_of_readHeader read known).mp admitted with
      ⟨rfl, signed, version⟩
    exact ⟨signed, version, usable⟩
  · rintro ⟨signed, version, usable⟩
    exact ⟨_, (Packet.verify_eq_ok_iff_of_readHeader read known).mpr ⟨rfl, signed, version⟩, usable⟩

namespace Session

variable {clock : Clock} {packet : Bytes} {header : Packet.Header} {session : Session} {link : Link}

/-- A session that receives a packet with a header and a sender in order counts its flaws. -/
theorem invalidCount_receive_of_readHeader (linked : session.link = some link)
    (read : Packet.readHeader packet clock.epoch Packet.Limits.standard = .ok header)
    (known : header.sender ∈ session.profile.senders) :
    (Packet.Flawed packet session.profile.key header →
        (session.receive clock packet).1.invalidCount = session.invalidCount + 1) ∧
      (¬Packet.Flawed packet session.profile.key header →
        (session.receive clock packet).1.invalidCount = session.invalidCount) := by
  rw [← Profile.judge_eq_invalid_iff read known,
    invalidCount_receive_of_linked clock linked (Packet.readHeader_eq_ok_iff.mp read).1]
  refine ⟨fun flaw => ?_, fun flawless => ?_⟩
  · rw [if_pos flaw]
  · rw [if_neg flawless, Nat.add_zero]

end Session

variable {link : LocalLink} {state : State Session} {packet : Bytes} {sender : Identity}
variable {handle : Handle} {session : Session}

theorem State.getElem?_takePacket_of_find?
    (claimed : Packet.claimedSender? packet state.clock.epoch = some sender)
    (found : state.find? sender = some (handle, session)) (localSink : Sink)
    (source : SocketAddress) :
    (state.takePacket localSink packet source).channels[handle]? =
      some (session.taking state.clock localSink packet source) := by
  rcases List.getElem?_eq_some_iff.mp (find?_eq_some_iff.mp found).2 with ⟨inside, -⟩
  rw [takePacket_of_find? claimed found, channels_perform, channels_put, List.getElem?_set_self]
  · rfl
  · exact inside

/-- A packet that claims to belong to a session, at whatever server was reached, is checked by that
session once it has followed the source, which never fails.  The header is then read again, at a moment
that may be another one but is close enough to its stamp, as the first one was; its sender is the one
for whom the session was found, the session's own identity and among those that it accepts.  So
verification gives that header or finds the signature or the version of the payload wrong, and the
session counts the packet as invalid if and only if the packet is flawed. -/
theorem both_checks_agree (reachable : Reachable link (fun _ => True) state)
    (claimed : Packet.claimedSender? packet state.clock.epoch = some sender)
    (found : state.find? sender = some (handle, session)) (localSink : Sink)
    (source : SocketAddress) :
    let attached := (Channel.follow state.clock localSink source session).1
    (Channel.follow state.clock localSink source session).2 = .ok () ∧
      (state.takePacket localSink packet source).channels[handle]? =
        some (attached.receive state.clock packet).1 ∧
      ∃ header,
        Packet.readHeader packet state.clock.epoch Packet.Limits.standard = .ok header ∧
        (state.clock.epoch.toInt - header.epoch.toInt).natAbs ≤ 1000 ∧
        header.sender = sender ∧ sender = attached.identity ∧ sender ∈ attached.profile.senders ∧
        (∀ there : Epoch, (there.toInt - header.epoch.toInt).natAbs ≤ 1000 →
          let admitted := Packet.verify packet attached.profile.key attached.profile.senders there
            Packet.Limits.standard
          Packet.readHeader packet there Packet.Limits.standard = .ok header ∧
            (∀ verified, admitted = .ok verified → verified = ⟨header, packet.drop 44⟩) ∧
            ∀ error, admitted = .error error →
              error = .signatureMismatch ∨
                error = .payloadNotIpv6 (Packet.versionOf? (packet.drop 44))) ∧
        ∀ second : Clock, (second.epoch.toInt - header.epoch.toInt).natAbs ≤ 1000 →
          let after := (attached.receive second packet).1
          (attached.receive second packet).2.isOk ∧
            (Packet.Flawed packet attached.profile.key header →
              after.invalidCount = session.invalidCount + 1) ∧
            (¬Packet.Flawed packet attached.profile.key header →
              after.invalidCount = session.invalidCount) := by
  intro attached
  have follows : attached = session.followed state.clock localSink source :=
    congrArg Prod.fst session.follow_eq
  have profile : attached.profile = session.profile := by
    rw [follows, Session.profile_followed]
  have linked := session.link_followed state.clock localSink source
  rw [← follows] at linked
  have count : attached.invalidCount = session.invalidCount := by
    rw [follows, Session.invalidCount_followed]
  rcases Packet.claimedSender?_eq_some_iff.mp claimed with ⟨header, read, rfl⟩
  rcases State.find?_eq_some_iff.mp found with ⟨mapped, there⟩
  rcases reachable.keyed header.sender handle mapped with ⟨owner, known, owned⟩
  cases there.symm.trans known
  have identity : header.sender = attached.identity := by
    rw [← owned, Session.identity, Session.identity, profile]
  have member : header.sender ∈ attached.profile.senders := by
    rw [identity]
    exact List.mem_cons_self
  refine ⟨congrArg Prod.snd session.follow_eq, ?_, header, read, ?_, rfl, identity, member, ?_, ?_⟩
  · rw [State.getElem?_takePacket_of_find? claimed found localSink source, follows, Session.taking]
  · exact Packet.Limits.acceptsSkew_iff.mp (Packet.readHeader_eq_ok_iff.mp read).2.2.2
  · intro there close admitted
    have again := Packet.readHeader_again read close
    refine ⟨again, ?_, ?_⟩
    · exact fun verified accepted =>
        ((Packet.verify_eq_ok_iff_of_readHeader again member).mp accepted).1
    · intro error refused
      simp only [admitted, Packet.verify_of_readHeader again member] at refused
      split at refused
      · exact .inl (Except.error.inj refused).symm
      · split at refused
        · exact .inr (Except.error.inj refused).symm
        · cases refused
  · intro second close after
    have again := Packet.readHeader_again read close
    refine ⟨?_, ?_⟩
    · rw [Session.snd_receive second linked (Packet.readHeader_eq_ok_iff.mp read).1]
      rfl
    · rw [← count]
      exact Session.invalidCount_receive_of_readHeader linked again member

/-- At the small server the client asks for an echo, which no tunnel answers: the session that hears of
it for the first time counts it as invalid. -/
theorem both_checks_agree_on_echo :
    let header : Packet.Header := ⟨.echoRequest, .nothing, 1700000000, Sample.identity⟩
    let packet := Packet.encode header Sample.record.sharedKey []
    let source : SocketAddress := .v4 Ipv4Address.unspecified 5072
    Reachable Sample.localLink (fun _ => True) Sample.server ∧
      Packet.claimedSender? packet Sample.server.clock.epoch = some Sample.identity ∧
      Sample.server.find? Sample.identity = some (0, Sample.session) ∧
      ∃ after, (Sample.server.takePacket "local" packet source).channels[0]? = some after ∧
        after.invalidCount = 1 := by
  intro header packet source
  have reachable : Reachable Sample.localLink (fun _ => True) Sample.server :=
    Sample.reachable_server trivial trivial
  have read : Packet.readHeader packet Sample.server.clock.epoch Packet.Limits.standard =
      .ok header := by
    refine Packet.readHeader_encode ?_ (by decide)
    rw [Packet.length_encode]
    decide
  have claimed := Packet.claimedSender?_eq_some_iff.mpr ⟨header, read, rfl⟩
  have found : Sample.server.find? Sample.identity = some (0, Sample.session) :=
    State.find?_eq_some_iff.mpr ⟨Sample.mapped_server, Sample.known_server⟩
  rcases both_checks_agree reachable claimed found "local" source with
    ⟨-, there, seen, readAgain, close, -, -, -, -, counts⟩
  rcases counts Sample.server.clock close with ⟨-, flawed, -⟩
  refine ⟨reachable, claimed, found, _, there, flawed ?_⟩
  cases read.symm.trans readAgain
  exact .unhandled (by decide) (by decide)

end TunnelServer
