import TunnelServer.Proofs.Delivery
import TunnelServer.Proofs.Routing

/-!
# From one end of a tunnel to the other

Two sessions made of one record are the ends of a tunnel.  What one of them packs the other delivers
unchanged, as long as their clocks agree and the packet is not too large to be admitted.  A packet is
larger than its datagram by a header, but a tunnel lets through every datagram that its own bound
admits, without counting the header: a record whose bound is within a header of the largest packet
makes a tunnel that accepts datagrams and loses them at the other end.
-/

namespace TunnelServer

/-! ## Whole datagrams in packets -/

theorem Packet.versionOf?_of_isWhole {datagram : Bytes} (whole : Datagram.IsWhole datagram) :
    Packet.versionOf? datagram = some 6 := by
  rcases datagram with _ | ⟨first, rest⟩
  · exact absurd rfl (Datagram.ne_nil_of_isWhole whole)
  · have enough := Datagram.headerLength_le_of_isWhole whole
    simp only [Datagram.IsWhole, Datagram.measure, if_neg (Nat.not_lt.mpr enough)] at whole
    split at whole
    · cases whole
    · rename_i version
      simpa [Packet.versionOf?] using not_not.mp version

theorem Packet.readHeader_of_large {packet : Bytes} (here : Epoch)
    (large : 65535 < packet.length) :
    Packet.readHeader packet here .standard = .error (.tooLarge packet.length 65535) := by
  have enough : ¬packet.length < Packet.headerLength := by
    simp only [Packet.headerLength]
    omega
  have beyond : Packet.Limits.standard.maxBytes < packet.length := large
  simp only [Packet.readHeader, dif_neg enough, if_pos beyond]
  rfl

theorem Profile.judge_forward {profile : Profile} {here stamp : Epoch} {datagram : Bytes}
    (whole : Datagram.IsWhole datagram) (close : (here.toInt - stamp.toInt).natAbs ≤ 1000) :
    profile.judge here (Packet.encode (.forward profile.identity stamp) profile.key datagram) =
      if Packet.headerLength + datagram.length ≤ 65535 then .carries datagram else .invalid := by
  split
  · rename_i fits
    apply Profile.judge_eq_carries_iff.mpr
    refine ⟨.forward profile.identity stamp, ?_, rfl, Datagram.ne_nil_of_isWhole whole⟩
    apply Packet.verify_eq_ok_iff.mpr
    refine ⟨rfl, List.mem_cons_self, Packet.Limits.acceptsSkew_iff.mpr close, ?_, ?_⟩
    · rw [Packet.length_encode]
      exact fits
    · intro _
      exact Packet.versionOf?_of_isWhole whole
  · rename_i large
    rw [← Packet.length_encode (.forward profile.identity stamp) profile.key] at large
    simp only [Profile.judge, Packet.verify,
      Packet.readHeader_of_large here (Nat.not_le.mp large)]

/-! ## The ends of a tunnel -/

/-- A session is an end of the tunnel that a record configures: a session can be made of the record,
and this one has its profile, which no session ever changes. -/
def Session.IsEndOf (record : TunnelRecord) (session : Session) : Prop :=
  ∃ clock fresh, Session.create record clock = .ok fresh ∧ session.profile = fresh.profile

theorem Session.profile_of_isEndOf {record : TunnelRecord} {session : Session}
    (isEnd : session.IsEndOf record) : session.profile = Session.profileOf record := by
  rcases isEnd with ⟨clock, fresh, created, same⟩
  simp only [Session.create] at created
  split at created
  · cases created
  · cases created
    exact same

namespace Session

variable {session : Session} {link : Link} {datagram : Bytes} {packet : Transmission}

/-- What a session packs is the datagram under its own identity, key and stamp; it packs just what
its bound admits. -/
theorem send_eq_ok_iff {clock : Clock} (linked : session.link = some link) :
    (session.send clock datagram).2 = .ok packet ↔
      datagram.length ≤ session.profile.mtu ∧
        packet = ⟨link.peer, Packet.encode (.forward session.identity clock.epoch)
          session.profile.key datagram⟩ := by
  by_cases large : session.profile.mtu < datagram.length
  · rw [send_of_large clock large]
    simp
    omega
  · have fits := Nat.not_lt.mp large
    rw [send_of_fits clock linked fits]
    simp [fits, eq_comm]

theorem receive_forward {clock : Clock} {stamp : Epoch} (linked : session.link = some link)
    (whole : Datagram.IsWhole datagram)
    (close : (clock.epoch.toInt - stamp.toInt).natAbs ≤ 1000) :
    (session.receive clock
        (Packet.encode (.forward session.identity stamp) session.profile.key datagram)).2 =
      .ok (if Packet.headerLength + datagram.length ≤ 65535 then .deliver datagram link.sink
        else .nothing) := by
  have judged : session.profile.judge clock.epoch
      (Packet.encode (.forward session.identity stamp) session.profile.key datagram) = _ :=
    Profile.judge_forward whole close
  rw [snd_receive clock linked (by simp), judged]
  by_cases fits : Packet.headerLength + datagram.length ≤ 65535
  · simp only [if_pos fits]
  · simp only [if_neg fits]

end Session

/-! ## Towards the server -/

namespace State

variable {state : State Session} {handle : Handle} {server : Session} {datagram : Bytes}
variable {stamp : Epoch}

theorem brings_forward (mapped : state.registry.lookup server.identity = some handle)
    (known : state.channels[handle]? = some server) (whole : Datagram.IsWhole datagram)
    (close : (state.clock.epoch.toInt - stamp.toInt).natAbs ≤ 1000)
    (fits : Packet.headerLength + datagram.length ≤ 65535) :
    state.Brings (Packet.encode (.forward server.identity stamp) server.profile.key datagram)
      server datagram := by
  have version := Packet.versionOf?_of_isWhole whole
  refine .intro server.identity handle .ipv6 stamp mapped known rfl
    (Datagram.ne_nil_of_isWhole whole) ?_ close ?_
  · rw [Packet.length_encode]
    exact fits
  · intro _
    exact Packet.versionOf?_eq_six_iff.mp version

theorem takePacket_of_large {packet : Bytes} (localSink : Sink) (source : SocketAddress)
    (large : 65535 < packet.length) :
    state.takePacket localSink packet source =
      state.count fun counters => { counters with
        received := counters.received + 1
        precheckDrops := counters.precheckDrops + 1 } := by
  have unclaimed : Packet.claimedSender? packet state.clock.epoch = none := by
    simp only [Packet.claimedSender?, Packet.readHeader_of_large _ large]
  simp only [takePacket, clock_count, unclaimed]
  rfl

end State

/-- The datagram for `::` with a payload of zeros. -/
def Datagram.blank (payload : Nat) : Bytes :=
  [0x60, 0, 0, 0] ++ BigEndian.encode 2 payload ++ List.replicate (34 + payload) 0

theorem Datagram.length_blank (payload : Nat) :
    (Datagram.blank payload).length = 40 + payload := by
  simp [Datagram.blank]
  omega

theorem Datagram.isWhole_blank {payload : Nat} (small : payload < 65536) :
    Datagram.IsWhole (Datagram.blank payload) := by
  have enough : ¬40 + payload < Datagram.headerLength := by
    rw [Datagram.headerLength]
    omega
  have version : Nibble.high ((Datagram.blank payload).headD 0) = 6 := by
    simp only [Datagram.blank, List.cons_append, List.headD_cons]
    decide
  have declared : Datagram.payloadLength? (Datagram.blank payload) = some payload := by
    have field : ((Datagram.blank payload).drop 4).take 2 = BigEndian.encode 2 payload := by
      simp [Datagram.blank]
    have read : BigEndian.decode (BigEndian.encode 2 payload) = payload := by
      rw [BigEndian.decode_encode]
      exact Nat.mod_eq_of_lt small
    simp [Datagram.payloadLength?, field, read]
  simp only [Datagram.IsWhole, Datagram.measure, Datagram.length_blank, if_neg enough, version,
    declared]
  rfl

namespace State

variable {state : State Session} {record : TunnelRecord} {handle : Handle}
variable {server client : Session} {clientLink : Link} {clientClock : Clock}

theorem takePacket_of_send (keyed : state.Keyed)
    (mapped : state.registry.lookup record.endpoint = some handle)
    (known : state.channels[handle]? = some server) (serverEnd : server.IsEndOf record)
    (clientEnd : client.IsEndOf record) (linked : client.link = some clientLink)
    (close : (state.clock.epoch.toInt - clientClock.epoch.toInt).natAbs ≤ 1000)
    (datagram : Bytes) (packet : Transmission) (localSink : Sink) (source : SocketAddress)
    (whole : Datagram.IsWhole datagram)
    (sent : (client.send clientClock datagram).2 = .ok packet) :
    let after := state.takePacket localSink packet.bytes source
    (Packet.headerLength + datagram.length ≤ 65535 →
        state.Writes after ⟨server.sinkFor state.clock localSink source, datagram⟩) ∧
      (65535 < Packet.headerLength + datagram.length →
        after = state.count fun counters => { counters with
          received := counters.received + 1
          precheckDrops := counters.precheckDrops + 1 }) := by
  have serverProfile := Session.profile_of_isEndOf serverEnd
  have same : client.profile = server.profile := by
    rw [serverProfile, Session.profile_of_isEndOf clientEnd]
  have identified : client.identity = server.identity := congrArg Profile.identity same
  have endpoint : server.identity = record.endpoint := congrArg Profile.identity serverProfile
  rcases (Session.send_eq_ok_iff linked).mp sent with ⟨-, rfl⟩
  rw [← endpoint] at mapped
  rw [same, identified]
  intro after
  constructor
  · intro fits
    exact writes_of_brings keyed (brings_forward mapped known whole close fits)
  · intro large
    apply takePacket_of_large
    rw [Packet.length_encode]
    exact large

theorem receive_of_goesIn (mapped : state.registry.lookup record.endpoint = some handle)
    (known : state.channels[handle]? = some server) (serverEnd : server.IsEndOf record)
    (clientEnd : client.IsEndOf record) (linked : client.link = some clientLink)
    (close : (clientClock.epoch.toInt - state.clock.epoch.toInt).natAbs ≤ 1000)
    {datagram : Bytes} (whole : Datagram.IsWhole datagram) {packet : Transmission}
    (goes : state.GoesIn datagram packet)
    (addressed : record.endpoint.octets = (datagram.drop 24).take 16) :
    (client.receive clientClock packet.bytes).2 =
      .ok (if Packet.headerLength + datagram.length ≤ 65535 then .deliver datagram clientLink.sink
        else .nothing) := by
  rcases goes with ⟨identity, other, profile, destination, lookup, found, encoded⟩
  have endpoint : identity = record.endpoint := by
    rcases identity with ⟨octets, _⟩
    rcases endpoint : record.endpoint with ⟨others, _⟩
    rw [endpoint] at addressed
    simp only [Ipv6Address.mk.injEq]
    exact destination.trans addressed.symm
  rw [endpoint, mapped] at lookup
  cases lookup
  have same : profile = client.profile := by
    rw [Session.profile_of_isEndOf clientEnd, ← Session.profile_of_isEndOf serverEnd]
    simpa [profiles, known] using found.symm
  rw [encoded, same]
  exact Session.receive_forward linked whole close

/-- The packets that a read makes the server send hold some of its datagrams, in order.  Of each that
is for its tunnel the client makes a delivery, if it fits; else it drops it. -/
theorem receive_of_takeRead (mapped : state.registry.lookup record.endpoint = some handle)
    (known : state.channels[handle]? = some server) (serverEnd : server.IsEndOf record)
    (clientEnd : client.IsEndOf record) (linked : client.link = some clientLink)
    (close : (clientClock.epoch.toInt - state.clock.epoch.toInt).natAbs ≤ 1000)
    (datagrams : List Bytes) (bytes : Bytes) (unhandled : Option Sink)
    (row : Datagram.IsRow datagrams bytes) :
    ∃ carried packets, carried.Sublist datagrams ∧
      (state.takeRead unhandled bytes).sent = state.sent ++ packets ∧
        List.Forall₂ (fun datagram packet =>
            packet.bytes.drop Packet.headerLength = datagram ∧
              (record.endpoint.octets = (datagram.drop 24).take 16 →
                (client.receive clientClock packet.bytes).2 =
                  .ok (if Packet.headerLength + datagram.length ≤ 65535 then
                    .deliver datagram clientLink.sink else .nothing)))
          carried packets := by
  rcases (handlesEach_foldl unhandled row.whole state).sends with
    ⟨carried, packets, ordered, appended, each⟩
  rw [← takeRead_of_isRow row] at appended
  refine ⟨carried, packets, ordered, appended, ?_⟩
  have whole : ∀ datagram ∈ carried, Datagram.IsWhole datagram := by
    intro datagram member
    exact row.whole datagram (ordered.subset member)
  have both := (List.forall₂_and_left carried packets).mpr ⟨whole, each⟩
  apply both.imp
  rintro datagram packet ⟨isWhole, goes⟩
  refine ⟨?_, receive_of_goesIn mapped known serverEnd clientEnd linked close isWhole goes⟩
  rcases goes with ⟨_, _, profile, -, -, -, encoded⟩
  rw [encoded]
  exact Packet.drop_encode _ profile.key datagram

end State

open State

/-- What the client of a tunnel packs the server writes, and what the server sends for the tunnel the
client makes a delivery of, unchanged and once, if the datagram fits a packet together with the
header; a larger one the receiving end drops for its size.  The sending end looks only at the bound
of the record, so no datagram is lost if and only if that bound is at most 65491. -/
theorem tunnel_passes_what_fits_packet {link : LocalLink} {state : State Session}
    (reachable : Reachable link (fun _ => True) state) {record : TunnelRecord} {handle : Handle}
    {server client : Session} {clientLink : Link} {clientClock : Clock}
    (mapped : state.registry.lookup record.endpoint = some handle)
    (known : state.channels[handle]? = some server) (serverEnd : server.IsEndOf record)
    (clientEnd : client.IsEndOf record) (linked : client.link = some clientLink)
    (close : (state.clock.epoch.toInt - clientClock.epoch.toInt).natAbs ≤ 1000) :
    (∀ datagram packet localSink source, Datagram.IsWhole datagram →
        (client.send clientClock datagram).2 = .ok packet →
          let after := state.takePacket localSink packet.bytes source
          (Packet.headerLength + datagram.length ≤ 65535 →
              state.Writes after ⟨server.sinkFor state.clock localSink source, datagram⟩) ∧
            (65535 < Packet.headerLength + datagram.length →
              after = state.count fun counters => { counters with
                received := counters.received + 1
                precheckDrops := counters.precheckDrops + 1 })) ∧
      (∀ datagrams bytes unhandled, Datagram.IsRow datagrams bytes →
        ∃ carried packets, carried.Sublist datagrams ∧
          (state.takeRead unhandled bytes).sent = state.sent ++ packets ∧
            List.Forall₂ (fun datagram packet =>
                packet.bytes.drop Packet.headerLength = datagram ∧
                  (record.endpoint.octets = (datagram.drop 24).take 16 →
                    (client.receive clientClock packet.bytes).2 =
                      .ok (if Packet.headerLength + datagram.length ≤ 65535 then
                        .deliver datagram clientLink.sink else .nothing)))
              carried packets) ∧
      ((∀ datagram packet localSink source, Datagram.IsWhole datagram →
          (client.send clientClock datagram).2 = .ok packet →
            state.Writes (state.takePacket localSink packet.bytes source)
              ⟨server.sinkFor state.clock localSink source, datagram⟩) ↔
        record.mtu.toNat ≤ 65491) := by
  have towardsServer :=
    takePacket_of_send reachable.keyed mapped known serverEnd clientEnd linked close
  have bound : client.profile.mtu = record.mtu.toNat := by
    rw [Session.profile_of_isEndOf clientEnd]
    rfl
  refine ⟨towardsServer, ?_, ?_, ?_⟩
  · rw [← Int.natAbs_neg, Int.neg_sub] at close
    exact receive_of_takeRead mapped known serverEnd clientEnd linked close
  · intro lossless
    by_contra above
    -- The smallest datagram that does not fit is within the bound.
    have length := Datagram.length_blank 65452
    have whole : Datagram.IsWhole (Datagram.blank 65452) := Datagram.isWhole_blank (by omega)
    have sent : ∃ packet, (client.send clientClock (Datagram.blank 65452)).2 = .ok packet :=
      ⟨_, (Session.send_eq_ok_iff linked).mpr ⟨by omega, rfl⟩⟩
    rcases sent with ⟨packet, sent⟩
    let source : SocketAddress := .v4 Ipv4Address.unspecified 0
    have dropped := (towardsServer _ packet "local" source whole sent).2 (by
      rw [length, Packet.headerLength]
      omega)
    have writes := lossless _ packet "local" source whole sent
    rw [dropped] at writes
    exact not_writesNothing_of_writes writes ⟨rfl, rfl, rfl⟩
  · intro below datagram packet localSink source whole sent
    apply (towardsServer datagram packet localSink source whole sent).1
    have admitted := ((Session.send_eq_ok_iff linked).mp sent).1
    rw [Packet.headerLength]
    omega

/-! ## The small server and its client -/

namespace Sample

/-- The record of the tunnel with the largest bound that there is. -/
def wideRecord : TunnelRecord := { record with mtu := 65535 }

/-- A server whose only session is made of that record, mapped and connected. -/
def wideServer : State Session :=
  (SessionOperation.run localLink empty
    [.create wideRecord,
      .common (.installOrReplace 0 "local" (.v4 Ipv4Address.unspecified 5072))]).1

theorem reachable_wideServer : Reachable localLink (fun _ => True) wideServer := by
  have start : Reachable localLink (fun _ => True) empty := ⟨empty.clock, .start⟩
  exact start.run _ fun _ _ => trivial

theorem isEndOf_connected {record : TunnelRecord} {sink : Sink}
    (valid : record.validate = .ok ()) : (connected record sink).IsEndOf record := by
  refine ⟨empty.clock, ⟨Session.profileOf record, none, 0, 0, false, 0⟩, ?_, rfl⟩
  simp only [Session.create, valid]
  rfl

end Sample

/-- Whatever the client of the small server packs, the small server writes. -/
theorem tunnel_passes_small :
    let client := Sample.connected Sample.record "client"
    Reachable Sample.localLink (fun _ => True) Sample.server ∧
      client.IsEndOf Sample.record ∧
      ∀ datagram packet localSink source, Datagram.IsWhole datagram →
        (client.send Sample.empty.clock datagram).2 = .ok packet →
          Sample.server.Writes (Sample.server.takePacket localSink packet.bytes source)
            ⟨Sample.session.sinkFor Sample.server.clock localSink source, datagram⟩ := by
  intro client
  have reachable : Reachable Sample.localLink (fun _ => True) Sample.server :=
    Sample.reachable_server trivial trivial
  have mapped : Sample.server.registry.lookup Sample.record.endpoint = some 0 := rfl
  have serverEnd : Sample.session.IsEndOf Sample.record :=
    ⟨Sample.empty.clock, Sample.session, rfl, rfl⟩
  have clientEnd : client.IsEndOf Sample.record := Sample.isEndOf_connected rfl
  have close : (Sample.server.clock.epoch.toInt - Sample.empty.clock.epoch.toInt).natAbs ≤
      1000 := by decide
  have passes := tunnel_passes_what_fits_packet reachable mapped Sample.known_server serverEnd
    clientEnd rfl close
  exact ⟨reachable, clientEnd, passes.2.2.mpr (by decide)⟩

/-- With the largest bound that there is, the client packs a datagram of 65492 octets, and the server
drops the packet. -/
theorem tunnel_loses_large :
    let client := Sample.connected Sample.wideRecord "client"
    let server := Sample.connected Sample.wideRecord "local"
    let datagram := Datagram.blank 65452
    ∃ packet, (client.send Sample.empty.clock datagram).2 = .ok packet ∧
      Datagram.IsWhole datagram ∧
      client.IsEndOf Sample.wideRecord ∧ server.IsEndOf Sample.wideRecord ∧
      Reachable Sample.localLink (fun _ => True) Sample.wideServer ∧
      Sample.wideServer.registry.lookup Sample.wideRecord.endpoint = some 0 ∧
      Sample.wideServer.channels[0]? = some server ∧
      ¬∃ delivery, Sample.wideServer.Writes (Sample.wideServer.takePacket "local" packet.bytes
        (.v4 Ipv4Address.unspecified 5072)) delivery := by
  intro client server datagram
  have length : datagram.length = 65492 := Datagram.length_blank 65452
  have admitted : datagram.length ≤ client.profile.mtu := by
    rw [length]
    decide
  have linked : client.link = some ⟨"client", .v4 Ipv4Address.unspecified 5072⟩ := rfl
  refine ⟨_, (Session.send_eq_ok_iff linked).mpr ⟨admitted, rfl⟩,
    Datagram.isWhole_blank (by omega), Sample.isEndOf_connected rfl, Sample.isEndOf_connected rfl,
    Sample.reachable_wideServer, rfl, rfl, ?_⟩
  rintro ⟨delivery, writes⟩
  rw [takePacket_of_large] at writes
  · exact not_writesNothing_of_writes writes ⟨rfl, rfl, rfl⟩
  · rw [Packet.length_encode, length]
    decide

end TunnelServer
