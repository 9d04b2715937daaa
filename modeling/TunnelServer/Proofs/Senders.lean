import TunnelServer.Proofs.Delivery

/-!
# Who may send for a tunnel

A session accepts packets from either end of its tunnel, but the server looks for the session under
the sender that a packet names, and sessions are mapped under one end alone.  So what the client
sends is delivered for the tunnel; what the other end sends under the tunnel's key never gets to its
session, but is left to whatever session has that end for its own identity.
-/

namespace TunnelServer

namespace Session

variable {clock : Clock} {packet payload : Bytes}

theorem fst_receive_of_carries {session : Session} {link : Link} (linked : session.link = some link)
    (enough : Packet.headerLength ≤ packet.length)
    (judged : session.profile.judge clock.epoch packet = .carries payload) :
    (session.receive clock packet).1 =
      { session with lastReceived := clock.now, validSeen := true } := by
  simp only [receive, linked, Nat.not_lt.mpr enough, if_false, judged]

end Session

namespace State

/-- A step delivers a payload for a session: it writes the payload where the session's payloads go,
and the session has followed the source, has heard from it at that moment and has seen a usable
packet.  No other session is changed. -/
structure DeliversFor (before after : State Session) (handle : Handle) (session : Session)
    (localSink : Sink) (source : SocketAddress) (payload : Bytes) : Prop where
  writes : before.Writes after ⟨session.sinkFor before.clock localSink source, payload⟩
  registry : after.registry = before.registry
  channels : after.channels = before.channels.set handle
    { session.followed before.clock localSink source with
      lastReceived := before.clock.now
      validSeen := true }

variable {state : State Session} {localSink : Sink} {packet : Bytes} {source : SocketAddress}
variable {handle : Handle} {session : Session} {header : Packet.Header} {payload : Bytes}

/-- What is authentic for the session that is mapped under its sender is delivered for that. -/
theorem deliversFor_of_verified (keyed : state.Keyed)
    (mapped : state.registry.lookup header.sender = some handle)
    (known : state.channels[handle]? = some session)
    (verified : Packet.verify packet session.profile.key session.profile.senders
      state.clock.epoch Packet.Limits.standard = .ok ⟨header, payload⟩)
    (forwarded : header.opcode = .forward) (filled : payload ≠ []) :
    state.DeliversFor (state.takePacket localSink packet source) handle session localSink source
      payload := by
  have claimed : Packet.claimedSender? packet state.clock.epoch = some header.sender :=
    Packet.claimedSender?_eq_some_iff.mpr ⟨header, Packet.readHeader_of_verify verified, rfl⟩
  have found : state.find? header.sender = some (handle, session) :=
    find?_eq_some_iff.mpr ⟨mapped, known⟩
  have judged : session.profile.judge state.clock.epoch packet = .carries payload :=
    Profile.judge_eq_carries_iff.mpr ⟨header, verified, forwarded, filled⟩
  refine ⟨writes_of_brings keyed ((brings_iff keyed).mpr ⟨_, _, claimed, found, judged⟩), ?_, ?_⟩
  · rw [takePacket_of_find? claimed found, registry_perform]
    rfl
  · rw [takePacket_of_find? claimed found, channels_perform, channels_put, channels_count]
    rw [← Session.profile_followed state.clock localSink source session] at judged
    rw [Session.fst_receive_of_carries (session.link_followed state.clock localSink source)
      (length_of_claimedSender? claimed) judged]

theorem writesNothing_of_not_verified (keyed : state.Keyed)
    (read : Packet.readHeader packet state.clock.epoch Packet.Limits.standard = .ok header)
    (mapped : state.registry.lookup header.sender = some handle)
    (known : state.channels[handle]? = some session)
    (refused : ∀ payload, Packet.verify packet session.profile.key session.profile.senders
      state.clock.epoch Packet.Limits.standard ≠ .ok ⟨header, payload⟩) :
    state.WritesNothing (state.takePacket localSink packet source) := by
  apply writesNothing_of_not_brings keyed
  rintro ⟨other, payload, brings⟩
  rcases (brings_iff keyed).mp brings with ⟨sender, _, claimed, found, judged⟩
  rcases Packet.claimedSender?_eq_some_iff.mp claimed with ⟨claim, readAgain, rfl⟩
  cases read.symm.trans readAgain
  rw [find?_eq_some_iff.mpr ⟨mapped, known⟩] at found
  cases found
  rcases Profile.judge_eq_carries_iff.mp judged with ⟨again, verified, -, -⟩
  cases read.symm.trans (Packet.readHeader_of_verify verified)
  exact refused payload verified

theorem takePacket_of_unmapped
    (read : Packet.readHeader packet state.clock.epoch Packet.Limits.standard = .ok header)
    (unmapped : state.registry.lookup header.sender = none) :
    state.takePacket localSink packet source =
      state.count fun counters => { counters with
        received := counters.received + 1
        unknownTunnelDrops := counters.unknownTunnelDrops + 1 } := by
  have claimed : Packet.claimedSender? packet state.clock.epoch = some header.sender :=
    Packet.claimedSender?_eq_some_iff.mpr ⟨header, read, rfl⟩
  have absent : state.find? header.sender = none := by
    simp only [find?, unmapped]
  simp only [takePacket, clock_count, find?_count, claimed, absent]
  rfl

theorem getElem?_takePacket (keyed : state.Keyed)
    (read : Packet.readHeader packet state.clock.epoch Packet.Limits.standard = .ok header)
    (known : state.channels[handle]? = some session) (other : header.sender ≠ session.identity) :
    (state.takePacket localSink packet source).channels[handle]? = some session := by
  rw [← known]
  apply getElem?_takePacket_of_elsewhere
  intro sender claimed mapped
  rcases Packet.claimedSender?_eq_some_iff.mp claimed with ⟨claim, readAgain, rfl⟩
  cases read.symm.trans readAgain
  rcases keyed header.sender handle mapped with ⟨owner, there, identified⟩
  cases known.symm.trans there
  exact other identified.symm

end State

open State

/-- A packet that is authentic for a mapped session and carries something names one end of its tunnel
as the sender.  Under the end that the session is mapped to it is delivered for the session.  Under
the other end it leaves the session as it is: if no session is mapped to that end, the packet is
only counted; if one is, the packet is delivered for that one as far as it is authentic for it, and
else for none. -/
theorem takePacket_delivers_for_mapped_sender {link : LocalLink} {state : State Session}
    (reachable : Reachable link (fun _ => True) state) {handle : Handle} {session : Session}
    {packet payload : Bytes} {header : Packet.Header}
    (mapped : state.registry.lookup session.identity = some handle)
    (known : state.channels[handle]? = some session)
    (verified : Packet.verify packet session.profile.key session.profile.senders
      state.clock.epoch Packet.Limits.standard = .ok ⟨header, payload⟩)
    (forwarded : header.opcode = .forward) (filled : payload ≠ []) (localSink : Sink)
    (source : SocketAddress) :
    let after := state.takePacket localSink packet source
    (header.sender = session.identity ∨ header.sender = session.profile.popIdentity) ∧
      (header.sender = session.identity →
        state.DeliversFor after handle session localSink source payload) ∧
      (header.sender ≠ session.identity →
        after.channels[handle]? = some session ∧
          (state.registry.lookup header.sender = none →
            after = state.count fun counters => { counters with
              received := counters.received + 1
              unknownTunnelDrops := counters.unknownTunnelDrops + 1 }) ∧
          ∀ otherHandle other, state.registry.lookup header.sender = some otherHandle →
            state.channels[otherHandle]? = some other →
              (Packet.verify packet other.profile.key other.profile.senders state.clock.epoch
                    Packet.Limits.standard = .ok ⟨header, payload⟩ →
                  state.DeliversFor after otherHandle other localSink source payload) ∧
                (Packet.verify packet other.profile.key other.profile.senders state.clock.epoch
                    Packet.Limits.standard ≠ .ok ⟨header, payload⟩ →
                  state.WritesNothing after)) := by
  have keyed := reachable.keyed
  have read := Packet.readHeader_of_verify verified
  rcases Packet.verify_eq_ok_iff.mp verified with ⟨encoded, accepted, -⟩
  intro after
  refine ⟨?_, ?_, ?_⟩
  · simpa [Profile.senders, Session.identity] using accepted
  · intro own
    rw [← own] at mapped
    exact deliversFor_of_verified keyed mapped known verified forwarded filled
  · intro other
    refine ⟨getElem?_takePacket keyed read known other, takePacket_of_unmapped read, ?_⟩
    intro otherHandle taker mappedThere knownThere
    constructor
    · intro authentic
      exact deliversFor_of_verified keyed mappedThere knownThere authentic forwarded filled
    · intro refused
      apply writesNothing_of_not_verified keyed read mappedThere knownThere
      intro found authentic
      -- The payload of a packet does not depend on the key.
      rcases Packet.verify_eq_ok_iff.mp authentic with ⟨encodedThere, -⟩
      have same : found = payload := by
        rw [← Packet.drop_encode header taker.profile.key found, ← encodedThere, encoded,
          Packet.drop_encode]
      rw [same] at authentic
      exact refused authentic

/-- At the small server what the client sends is delivered for the tunnel. -/
theorem takePacket_delivers_small :
    let header : Packet.Header := ⟨.forward, .ipv6, 1700000000, Sample.identity⟩
    let packet := Packet.encode header Sample.record.sharedKey [0x60, 0, 0, 0]
    let source : SocketAddress := .v4 Ipv4Address.unspecified 5072
    Reachable Sample.localLink (fun _ => True) Sample.server ∧
      Packet.verify packet Sample.session.profile.key Sample.session.profile.senders
        Sample.server.clock.epoch Packet.Limits.standard = .ok ⟨header, [0x60, 0, 0, 0]⟩ ∧
      Sample.server.DeliversFor (Sample.server.takePacket "local" packet source) 0 Sample.session
        "local" source [0x60, 0, 0, 0] := by
  intro header packet source
  have reachable : Reachable Sample.localLink (fun _ => True) Sample.server :=
    Sample.reachable_server trivial trivial
  have verified : Packet.verify packet Sample.session.profile.key Sample.session.profile.senders
      Sample.server.clock.epoch Packet.Limits.standard = .ok ⟨header, [0x60, 0, 0, 0]⟩ := by
    refine Packet.verify_eq_ok_iff.mpr ⟨rfl, List.mem_cons_self, by decide, ?_, fun _ => rfl⟩
    rw [Packet.length_encode]
    decide
  have mapped : Sample.server.registry.lookup Sample.session.identity = some 0 :=
    Sample.mapped_server
  exact ⟨reachable, verified, (takePacket_delivers_for_mapped_sender reachable mapped
    Sample.known_server verified rfl (by simp) "local" source).2.1 rfl⟩

/-- At the small server what the other end of the tunnel sends is dropped, authentic as it is. -/
theorem takePacket_drops_other_end :
    let header : Packet.Header := ⟨.forward, .ipv6, 1700000000, Sample.record.pop⟩
    let packet := Packet.encode header Sample.record.sharedKey [0x60, 0, 0, 0]
    let after := Sample.server.takePacket "local" packet (.v4 Ipv4Address.unspecified 5072)
    Reachable Sample.localLink (fun _ => True) Sample.server ∧
      Sample.server.registry.lookup Sample.session.identity = some 0 ∧
      Sample.server.channels[0]? = some Sample.session ∧
      Packet.verify packet Sample.session.profile.key Sample.session.profile.senders
        Sample.server.clock.epoch Packet.Limits.standard = .ok ⟨header, [0x60, 0, 0, 0]⟩ ∧
      after.channels[0]? = some Sample.session ∧
      ¬∃ delivery, Sample.server.Writes after delivery := by
  intro header packet after
  have verified : Packet.verify packet Sample.session.profile.key Sample.session.profile.senders
      Sample.server.clock.epoch Packet.Limits.standard = .ok ⟨header, [0x60, 0, 0, 0]⟩ := by
    refine Packet.verify_eq_ok_iff.mpr ⟨rfl, ?_, by decide, ?_, fun _ => rfl⟩
    · exact List.mem_cons_of_mem _ List.mem_cons_self
    · rw [Packet.length_encode]
      decide
  have dropped : after = _ :=
    takePacket_of_unmapped (Packet.readHeader_of_verify verified) rfl
  refine ⟨Sample.reachable_server trivial trivial, rfl, rfl, verified, ?_, ?_⟩
  · rw [dropped]
    rfl
  · rintro ⟨delivery, writes⟩
    rw [dropped] at writes
    exact not_writesNothing_of_writes writes ⟨rfl, rfl, rfl⟩

end TunnelServer
