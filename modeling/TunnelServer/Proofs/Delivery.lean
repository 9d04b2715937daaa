import Mathlib.Tactic.ByContra
import TunnelServer.Pipe.Frame
import TunnelServer.Proofs.Run.Reachable
import TunnelServer.Proofs.Session.Reception

/-!
# What reaches the local network

A packet from a peer is answered by one write or by none.  It is written if and only if it is, octet
by octet, a forwarded payload under the key and the identity of a mapped tunnel, fresh and not too
large; what is written is that payload and nothing else.

The sinks take single IPv6 datagrams.  Nothing on the way checks that a payload is one: that holds
exactly as far as the tunnels' peers see to it.
-/

namespace TunnelServer.State

/-- One datagram is written in a step: a sink that is up takes it, and one that is down makes the
step count a sink error instead. -/
structure Writes (before after : State Session) (delivery : Delivery) : Prop where
  written : after.written =
    before.written ++ if delivery.sink ∈ before.outages.sinks then [] else [delivery]
  delivered : after.counters.delivered =
    before.counters.delivered + if delivery.sink ∈ before.outages.sinks then 0 else 1
  sinkErrors : after.counters.sinkErrors =
    before.counters.sinkErrors + if delivery.sink ∈ before.outages.sinks then 1 else 0

/-- Nothing is written in a step, and no write fails. -/
structure WritesNothing (before after : State Session) : Prop where
  written : after.written = before.written
  delivered : after.counters.delivered = before.counters.delivered
  sinkErrors : after.counters.sinkErrors = before.counters.sinkErrors

/-- A packet brings a payload for a mapped session: it is the forwarded payload under the session's
key and the identity that the session is mapped to, fresh and not too large, and a payload said to be
IPv6 starts with version 6. -/
inductive Brings (state : State Session) (packet : Bytes) (session : Session) (payload : Bytes) :
    Prop where
  | intro (identity : Identity) (handle : Handle) (nextHeader : Packet.NextHeader) (epoch : Epoch)
      (mapped : state.registry.lookup identity = some handle)
      (known : state.channels[handle]? = some session)
      (encoded : packet =
        Packet.encode ⟨.forward, nextHeader, epoch, identity⟩ session.profile.key payload)
      (filled : payload ≠ [])
      (small : packet.length ≤ 65535)
      (fresh : (state.clock.epoch.toInt - epoch.toInt).natAbs ≤ 1000)
      (version : nextHeader = .ipv6 →
        ∃ first rest, payload = first :: rest ∧ Nibble.high first = 6)

variable {state : State Session} {localSink : Sink} {packet : Bytes} {source : SocketAddress}

/-- The same in the terms in which the server finds it out. -/
theorem brings_iff (keyed : state.Keyed) {session : Session} {payload : Bytes} :
    state.Brings packet session payload ↔
      ∃ sender handle, Packet.claimedSender? packet state.clock.epoch = some sender ∧
        state.find? sender = some (handle, session) ∧
        session.profile.judge state.clock.epoch packet = .carries payload := by
  constructor
  · rintro ⟨identity, handle, nextHeader, epoch, mapped, known, encoded, filled, small, fresh,
      version⟩
    rcases keyed identity handle mapped with ⟨other, there, identified⟩
    rw [known] at there
    cases there
    have member : identity ∈ session.profile.senders := by
      rw [← identified]
      exact List.mem_cons_self
    have verified : Packet.verify packet session.profile.key session.profile.senders
        state.clock.epoch Packet.Limits.standard =
          .ok ⟨⟨.forward, nextHeader, epoch, identity⟩, payload⟩ := by
      rw [Packet.verify_eq_ok_iff, Packet.Limits.acceptsSkew_iff, Packet.versionOf?_eq_six_iff]
      exact ⟨encoded, member, fresh, small, version⟩
    have read := Packet.readHeader_of_verify verified
    refine ⟨identity, handle, Packet.claimedSender?_eq_some_iff.mpr ⟨_, read, rfl⟩,
      find?_eq_some_iff.mpr ⟨mapped, known⟩, ?_⟩
    exact Profile.judge_eq_carries_iff.mpr ⟨_, verified, rfl, filled⟩
  · rintro ⟨sender, handle, claimed, found, judged⟩
    rcases find?_eq_some_iff.mp found with ⟨mapped, known⟩
    rcases Packet.claimedSender?_eq_some_iff.mp claimed with ⟨header, read, rfl⟩
    rcases Profile.judge_eq_carries_iff.mp judged with ⟨other, verified, forwarded, filled⟩
    have same : other = header :=
      Except.ok.inj ((Packet.readHeader_of_verify verified).symm.trans read)
    subst same
    rw [Packet.verify_eq_ok_iff, Packet.Limits.acceptsSkew_iff,
      Packet.versionOf?_eq_six_iff] at verified
    rcases verified with ⟨encoded, -, fresh, small, version⟩
    rcases other with ⟨opcode, nextHeader, epoch, sender⟩
    cases forwarded
    exact ⟨sender, handle, nextHeader, epoch, mapped, known, encoded, filled, small, fresh,
      version⟩

theorem length_of_claimedSender? {here : Epoch} {sender : Identity}
    (claimed : Packet.claimedSender? packet here = some sender) :
    Packet.headerLength ≤ packet.length := by
  rcases Packet.claimedSender?_eq_some_iff.mp claimed with ⟨header, read, -⟩
  exact (Packet.readHeader_eq_ok_iff.mp read).1

/-- What a packet that claims to belong to a mapped session does. -/
theorem takePacket_of_find? {sender : Identity} {handle : Handle} {session : Session}
    (claimed : Packet.claimedSender? packet state.clock.epoch = some sender)
    (found : state.find? sender = some (handle, session)) :
    state.takePacket localSink packet source =
      ((state.count fun counters => { counters with received := counters.received + 1 }).put handle
        ((session.followed state.clock localSink source).receive state.clock packet).1).perform
          (session.reaction state.clock localSink source packet) := by
  simp only [takePacket, clock_count, find?_count, claimed, found,
    Session.accept_eq session (length_of_claimedSender? claimed)]

theorem channels_perform (action : Action) (state : State Session) :
    (state.perform action).channels = state.channels := by
  cases action with
  | nothing => rfl
  | deliver payload sink =>
      rw [perform_deliver]
      split <;> rfl

theorem registry_perform (action : Action) (state : State Session) :
    (state.perform action).registry = state.registry := by
  cases action with
  | nothing => rfl
  | deliver payload sink =>
      rw [perform_deliver]
      split <;> rfl

theorem clock_perform (action : Action) (state : State Session) :
    (state.perform action).clock = state.clock := by
  cases action with
  | nothing => rfl
  | deliver payload sink =>
      rw [perform_deliver]
      split <;> rfl

/-- A packet is counted and no more, or it is taken by the session that it claims to belong to. -/
theorem takePacket_cases (localSink : Sink) (packet : Bytes) (source : SocketAddress)
    (state : State Session) :
    (∃ bump, state.takePacket localSink packet source = state.count bump) ∨
      ∃ sender handle session, Packet.claimedSender? packet state.clock.epoch = some sender ∧
        state.find? sender = some (handle, session) := by
  cases claimed : Packet.claimedSender? packet state.clock.epoch with
  | none =>
      refine .inl ⟨fun counters => { counters with
        received := counters.received + 1
        precheckDrops := counters.precheckDrops + 1 }, ?_⟩
      simp only [takePacket, clock_count, claimed]
      rfl
  | some sender =>
      cases found : state.find? sender with
      | none =>
          refine .inl ⟨fun counters => { counters with
            received := counters.received + 1
            unknownTunnelDrops := counters.unknownTunnelDrops + 1 }, ?_⟩
          simp only [takePacket, clock_count, find?_count, claimed, found]
          rfl
      | some taker => exact .inr ⟨sender, taker.1, taker.2, rfl, found⟩

/-- A session takes no part in a packet that claims to belong elsewhere. -/
theorem getElem?_takePacket_of_elsewhere {handle : Handle}
    (elsewhere : ∀ sender, Packet.claimedSender? packet state.clock.epoch = some sender →
      state.registry.lookup sender ≠ some handle) :
    (state.takePacket localSink packet source).channels[handle]? = state.channels[handle]? := by
  rcases takePacket_cases localSink packet source state with
    ⟨bump, counted⟩ | ⟨sender, taker, session, claimed, found⟩
  · rw [counted]
    rfl
  · have different : taker ≠ handle := by
      rintro rfl
      exact elsewhere sender claimed (find?_eq_some_iff.mp found).1
    rw [takePacket_of_find? claimed found, channels_perform, channels_put, channels_count,
      List.getElem?_set_ne different]

theorem writes_perform_deliver (payload : Bytes) (sink : Sink) (state : State Session) :
    state.Writes (state.perform (.deliver payload sink)) ⟨sink, payload⟩ := by
  rw [perform_deliver]
  by_cases down : sink ∈ state.outages.sinks
  · rw [if_pos down]
    constructor <;> simp [down]
  · rw [if_neg down]
    constructor <;> simp [down]

/-- A packet that brings a payload for a session is answered by one write of just that payload. -/
theorem writes_of_brings (keyed : state.Keyed) {session : Session} {payload : Bytes}
    (brings : state.Brings packet session payload) :
    state.Writes (state.takePacket localSink packet source)
      ⟨session.sinkFor state.clock localSink source, payload⟩ := by
  rcases (brings_iff keyed).mp brings with ⟨sender, handle, claimed, found, judged⟩
  rw [takePacket_of_find? claimed found]
  simp only [Session.reaction, judged]
  -- What is put and counted before the write is nothing that `Writes` speaks of.
  rcases writes_perform_deliver payload (session.sinkFor state.clock localSink source)
    ((state.count fun counters => { counters with received := counters.received + 1 }).put handle
      ((session.followed state.clock localSink source).receive state.clock packet).1) with
    ⟨written, delivered, sinkErrors⟩
  exact ⟨written, delivered, sinkErrors⟩

/-- A packet that brings nothing is answered by no write. -/
theorem writesNothing_of_not_brings (keyed : state.Keyed)
    (nothing : ¬∃ session payload, state.Brings packet session payload) :
    state.WritesNothing (state.takePacket localSink packet source) := by
  cases claimed : Packet.claimedSender? packet state.clock.epoch with
  | none =>
      simp only [takePacket, clock_count, claimed]
      constructor <;> rfl
  | some sender =>
      cases found : state.find? sender with
      | none =>
          simp only [takePacket, clock_count, find?_count, claimed, found]
          constructor <;> rfl
      | some mapped =>
          rcases mapped with ⟨handle, session⟩
          have quiet : session.reaction state.clock localSink source packet = .nothing := by
            simp only [Session.reaction]
            split
            · rename_i payload judged
              exact absurd ⟨session, payload,
                (brings_iff keyed).mpr ⟨sender, handle, claimed, found, judged⟩⟩ nothing
            · rfl
          rw [takePacket_of_find? claimed found, quiet]
          constructor <;> rfl

theorem not_writesNothing_of_writes {before after : State Session} {delivery : Delivery}
    (writes : before.Writes after delivery) : ¬before.WritesNothing after := by
  intro nothing
  have delivered := writes.delivered.symm.trans nothing.delivered
  have failed := writes.sinkErrors.symm.trans nothing.sinkErrors
  split at delivered <;> rename_i sink <;> simp [sink] at delivered failed

end TunnelServer.State

namespace TunnelServer

open State

/-- A packet is answered by a write if and only if it brings a payload for a mapped session.  Then
exactly one write is made, of exactly that payload: to the sink on record if the session was
connected, not timed out, and had the source as its peer, and to the pump's own sink otherwise. -/
theorem takePacket_writes_iff_brings {link : LocalLink} {state : State Session}
    (reachable : Reachable link (fun _ => True) state) (localSink : Sink) (packet : Bytes)
    (source : SocketAddress) :
    let after := state.takePacket localSink packet source
    ((∃ delivery, state.Writes after delivery) ↔
        ∃ session payload, state.Brings packet session payload) ∧
      (∀ session payload, state.Brings packet session payload →
        state.Writes after ⟨session.sinkFor state.clock localSink source, payload⟩) ∧
      ((¬∃ session payload, state.Brings packet session payload) → state.WritesNothing after) := by
  have keyed := reachable.keyed
  refine ⟨⟨?_, ?_⟩, ?_, ?_⟩
  · rintro ⟨delivery, writes⟩
    by_contra nothing
    exact not_writesNothing_of_writes writes (writesNothing_of_not_brings keyed nothing)
  · rintro ⟨session, payload, brings⟩
    exact ⟨_, writes_of_brings keyed brings⟩
  · intro session payload brings
    exact writes_of_brings keyed brings
  · intro nothing
    exact writesNothing_of_not_brings keyed nothing

/-- The small server writes what comes for its tunnel. -/
theorem takePacket_writes_arrived :
    let packet := Packet.encode ⟨.forward, .ipv6, 1700000000, Sample.identity⟩
      Sample.record.sharedKey [0x60, 0, 0, 0]
    Reachable Sample.localLink (fun _ => True) Sample.server ∧
      Sample.server.Writes
        (Sample.server.takePacket "local" packet (.v4 Ipv4Address.unspecified 5072))
        ⟨"local", [0x60, 0, 0, 0]⟩ := by
  intro packet
  have reachable : Reachable Sample.localLink (fun _ => True) Sample.server :=
    Sample.reachable_server trivial trivial
  have brings : Sample.server.Brings packet Sample.session [0x60, 0, 0, 0] := by
    refine .intro Sample.identity 0 .ipv6 1700000000 Sample.mapped_server Sample.known_server rfl
      (by simp) ?_ (by decide) fun _ => ⟨0x60, [0, 0, 0], rfl, rfl⟩
    simp only [packet, Packet.length_encode, Packet.headerLength]
    decide
  exact ⟨reachable, (takePacket_writes_iff_brings reachable "local" packet
    (.v4 Ipv4Address.unspecified 5072)).2.1 Sample.session _ brings⟩

/-! ## Payloads that are no datagrams -/

namespace State

/-- Everything that is written in a step is a whole datagram. -/
def WritesWhole (before after : State Session) : Prop :=
  ∃ written, after.written = before.written ++ written ∧
    ∀ delivery ∈ written, Datagram.IsWhole delivery.bytes

variable {state : State Session} {localSink : Sink} {packet : Bytes} {source : SocketAddress}

theorem not_isWhole_of_short {bytes : Bytes} (short : bytes.length < Datagram.headerLength) :
    ¬Datagram.IsWhole bytes := by
  intro whole
  exact Nat.not_le.mpr short (Datagram.headerLength_le_of_measure whole).2

/-- One write is a whole datagram if its payload is, or if the sink is down. -/
theorem writesWhole_of_writes {before after : State Session} {delivery : Delivery}
    (writes : before.Writes after delivery) :
    before.WritesWhole after ↔
      (delivery.sink ∉ before.outages.sinks → Datagram.IsWhole delivery.bytes) := by
  have recorded := writes.written
  constructor
  · rintro ⟨written, appended, whole⟩ up
    rw [if_neg up, appended, List.append_cancel_left_eq] at recorded
    exact whole delivery (by simp [recorded])
  · intro whole
    refine ⟨_, recorded, ?_⟩
    split
    · simp
    · rename_i up
      simpa using whole up

theorem writesWhole_of_writesNothing {before after : State Session}
    (nothing : before.WritesNothing after) : before.WritesWhole after :=
  ⟨[], by simp [nothing.written], by simp⟩

/-- What a packet makes the server write is a whole datagram exactly as far as what it brings is. -/
theorem writesWhole_iff (keyed : state.Keyed) :
    state.WritesWhole (state.takePacket localSink packet source) ↔
      ∀ session payload, state.Brings packet session payload →
        session.sinkFor state.clock localSink source ∉ state.outages.sinks →
          Datagram.IsWhole payload := by
  constructor
  · intro whole session payload brings
    exact (writesWhole_of_writes (writes_of_brings keyed brings)).mp whole
  · intro whole
    by_cases brought : ∃ session payload, state.Brings packet session payload
    · rcases brought with ⟨session, payload, brings⟩
      exact (writesWhole_of_writes (writes_of_brings keyed brings)).mpr
        (whole session payload brings)
    · exact writesWhole_of_writesNothing (writesNothing_of_not_brings keyed brought)

/-- Whoever has the key gets any payload through that is not empty and fits a packet; if it is said
to be IPv6, its first nibble is looked at and nothing else. -/
theorem brings_encode_iff {identity : Identity} {handle : Handle} {session : Session}
    {nextHeader : Packet.NextHeader} {payload : Bytes}
    (mapped : state.registry.lookup identity = some handle)
    (known : state.channels[handle]? = some session) :
    state.Brings (Packet.encode ⟨.forward, nextHeader, state.clock.epoch, identity⟩
        session.profile.key payload) session payload ↔
      payload ≠ [] ∧ Packet.headerLength + payload.length ≤ 65535 ∧
        (nextHeader = .ipv6 →
          ∃ first rest, payload = first :: rest ∧ Nibble.high first = 6) := by
  constructor
  · rintro ⟨other, _, otherNext, epoch, -, -, encoded, filled, small, -, version⟩
    rw [Packet.length_encode] at small
    cases (Packet.encode_injective encoded).1
    exact ⟨filled, small, version⟩
  · rintro ⟨filled, small, version⟩
    rw [← Packet.length_encode] at small
    refine .intro identity handle nextHeader state.clock.epoch mapped known rfl filled small ?_
      version
    rw [Int.sub_self]
    exact Nat.zero_le _

/-- A frame shorter than a header is written but not read back. -/
theorem decodeLength_of_short {length room : Nat} {field : Bytes}
    (short : length < Datagram.headerLength) (encoded : Pipe.encodeLength length = .ok field) :
    Pipe.decodeLength field room = .error (.invalidPipeLength length) := by
  have fits : length ≤ Pipe.maxLength := by
    simp only [Datagram.headerLength, Pipe.maxLength] at short ⊢
    omega
  rw [Pipe.encodeLength, if_pos fits] at encoded
  cases encoded
  have read : BigEndian.decode (BigEndian.encode Pipe.lengthOctets length) = length := by
    rw [BigEndian.decode_encode]
    exact Nat.mod_eq_of_lt (Nat.lt_succ_of_le fits)
  simp only [Pipe.decodeLength, read, short, true_or, if_true]

/-- From some source a session's payloads go to the pump's own sink. -/
theorem exists_sinkFor_eq (clock : Clock) (localSink : Sink) (session : Session) :
    ∃ source, session.sinkFor clock localSink source = localSink := by
  cases linked : session.link with
  | none => exact ⟨.v4 Ipv4Address.unspecified 0, by simp [Session.sinkFor, linked]⟩
  | some link =>
      have other : ∃ source, link.peer ≠ source := by
        by_cases same : link.peer = .v4 Ipv4Address.unspecified 0
        · exact ⟨.v4 Ipv4Address.unspecified 1, by simp [same]⟩
        · exact ⟨_, same⟩
      rcases other with ⟨source, different⟩
      refine ⟨source, ?_⟩
      simp [Session.sinkFor, Session.isLiveWith, Session.peer?, linked, different]

end State

/-- What a packet makes the server write is a whole datagram if and only if the payload that it
brings is one, and nothing sees to that: for a mapped session every payload gets through that is not
empty and fits a packet, with a first nibble of 6 if it is said to be IPv6.  So the server is safe
from such writes only while no session is mapped.  A payload shorter than a header makes a frame that
the reading end of a pipe refuses. -/
theorem takePacket_writes_whole_iff {link : LocalLink} {state : State Session}
    (reachable : Reachable link (fun _ => True) state) (localSink : Sink) :
    (∀ packet source, state.WritesWhole (state.takePacket localSink packet source) ↔
        ∀ session payload, state.Brings packet session payload →
          session.sinkFor state.clock localSink source ∉ state.outages.sinks →
            Datagram.IsWhole payload) ∧
      (∀ identity handle session nextHeader payload,
        state.registry.lookup identity = some handle →
          state.channels[handle]? = some session →
            (state.Brings (Packet.encode ⟨.forward, nextHeader, state.clock.epoch, identity⟩
                session.profile.key payload) session payload ↔
              payload ≠ [] ∧ Packet.headerLength + payload.length ≤ 65535 ∧
                (nextHeader = .ipv6 →
                  ∃ first rest, payload = first :: rest ∧ Nibble.high first = 6))) ∧
      (localSink ∉ state.outages.sinks →
        ((∀ packet source, state.WritesWhole (state.takePacket localSink packet source)) ↔
          state.registry.identities = [])) ∧
      (∀ (payload field : Bytes) (room : Nat), payload.length < Datagram.headerLength →
        Pipe.encodeLength payload.length = .ok field →
          Pipe.decodeLength field room = .error (.invalidPipeLength payload.length)) := by
  have keyed := reachable.keyed
  refine ⟨fun packet source => writesWhole_iff keyed, ?_, fun up => ⟨?_, ?_⟩, ?_⟩
  · intro identity handle session nextHeader payload mapped known
    exact brings_encode_iff mapped known
  · intro safe
    by_contra some
    rcases List.exists_mem_of_ne_nil _ some with ⟨identity, member⟩
    rcases Registry.mem_identities_iff.mp member with ⟨handle, mapped⟩
    rcases keyed identity handle mapped with ⟨session, known, -⟩
    rcases exists_sinkFor_eq state.clock localSink session with ⟨source, own⟩
    -- A single octet under the other next header does it.
    have brings : state.Brings (Packet.encode ⟨.forward, .nothing, state.clock.epoch, identity⟩
        session.profile.key [0]) session [0] :=
      (brings_encode_iff mapped known).mpr (by simp [Packet.headerLength])
    have short : ¬Datagram.IsWhole [0] := not_isWhole_of_short (by simp [Datagram.headerLength])
    apply short
    refine (writesWhole_iff keyed).mp (safe _ source) session [0] brings ?_
    rw [own]
    exact up
  · intro empty packet source
    refine (writesWhole_iff keyed).mpr ?_
    rintro session payload ⟨identity, handle, _, _, mapped, -⟩
    have member : identity ∈ state.registry.identities :=
      Registry.mem_identities_iff.mpr ⟨handle, mapped⟩
    rw [empty] at member
    cases member
  · intro payload field room short encoded
    exact decodeLength_of_short short encoded

/-- The small server, which has a session mapped, is not safe from such writes. -/
theorem takePacket_writes_whole_iff_small :
    Reachable Sample.localLink (fun _ => True) Sample.server ∧
      Sample.server.Brings (Packet.encode ⟨.forward, .nothing, 1700000000, Sample.identity⟩
        Sample.record.sharedKey [0]) Sample.session [0] ∧
      ¬∀ packet source,
        Sample.server.WritesWhole (Sample.server.takePacket "local" packet source) := by
  have reachable : Reachable Sample.localLink (fun _ => True) Sample.server :=
    Sample.reachable_server trivial trivial
  rcases takePacket_writes_whole_iff reachable "local" with ⟨-, brings, safe, -⟩
  refine ⟨reachable, ?_, ?_⟩
  · refine (brings Sample.identity 0 Sample.session .nothing [0] Sample.mapped_server
      Sample.known_server).mpr ?_
    simp [Packet.headerLength]
  · intro whole
    have nobody : Sample.server.registry.identities = [] := (safe (by decide)).mp whole
    have member : Sample.identity ∈ Sample.server.registry.identities :=
      Registry.mem_identities_iff.mpr ⟨0, Sample.mapped_server⟩
    rw [nobody] at member
    cases member

/-- At the small server a single octet is written, though no datagram is as short. -/
theorem takePacket_writes_octet :
    let packet := Packet.encode ⟨.forward, .nothing, 1700000000, Sample.identity⟩
      Sample.record.sharedKey [0]
    let after := Sample.server.takePacket "local" packet (.v4 Ipv4Address.unspecified 5072)
    Reachable Sample.localLink (fun _ => True) Sample.server ∧
      after.written = [⟨"local", [0]⟩] ∧ ¬Datagram.IsWhole [0] := by
  intro packet after
  have brings : Sample.server.Brings packet Sample.session [0] := by
    refine (brings_encode_iff Sample.mapped_server Sample.known_server).mpr ?_
    simp [Packet.headerLength]
  have reachable : Reachable Sample.localLink (fun _ => True) Sample.server :=
    Sample.reachable_server trivial trivial
  refine ⟨reachable, (writes_of_brings reachable.keyed brings).written, ?_⟩
  exact not_isWhole_of_short (by simp [Datagram.headerLength])

end TunnelServer
