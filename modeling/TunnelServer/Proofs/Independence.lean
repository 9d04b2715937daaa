import Mathlib.Algebra.Group.Basic
import TunnelServer.Proofs.Run.Arrival
import TunnelServer.Proofs.Run.Registration

/-!
# Packets of different tunnels

What a packet does to a server depends on the session that is mapped to the identity that it claims and
on nothing that a packet of another tunnel changes.  So two packets that do not claim one identity can
come in either order, be they authentic or not: the server is the same in the end, but for the order of
what was written.
-/

namespace TunnelServer

/-- Two packets do not claim one and the same identity. -/
def Packet.ClaimApart (here : Epoch) (first second : Bytes) : Prop :=
  ∀ identity, claimedSender? first here = some identity →
    claimedSender? second here ≠ some identity

theorem Packet.ClaimApart.symm {here : Epoch} {first second : Bytes}
    (apart : ClaimApart here first second) : ClaimApart here second first := by
  intro identity claimed same
  exact apart identity same claimed

namespace State

variable {state : State Session} {localSink : Sink} {packet first second : Bytes}
variable {source other : SocketAddress} {handle : Handle} {identity : Identity}

/-! ## One packet and another tunnel -/

theorem find?_takePacket_of_unclaimed (keyed : state.Keyed)
    (unclaimed : Packet.claimedSender? packet state.clock.epoch ≠ some identity) :
    (state.takePacket localSink packet source).find? identity = state.find? identity := by
  have registry : (state.takePacket localSink packet source).registry = state.registry := by
    rw [takePacket_eq]
  simp only [find?, registry]
  cases mapped : state.registry.lookup identity with
  | none => rfl
  | some handle =>
      have elsewhere : ∀ sender, Packet.claimedSender? packet state.clock.epoch = some sender →
          state.registry.lookup sender ≠ some handle := by
        intro sender claimed found
        apply unclaimed
        rw [claimed, keyed.injective found mapped]
      simp only [getElem?_takePacket_of_elsewhere elsewhere]

variable (apart : Packet.ClaimApart state.clock.epoch first second)

include apart

/-- A packet of another tunnel is taken by the session that would have taken it anyway. -/
theorem taker?_takePacket (keyed : state.Keyed) (localSink : Sink) (source : SocketAddress) :
    (state.takePacket localSink first source).taker? second = state.taker? second := by
  have clock : (state.takePacket localSink first source).clock = state.clock := by
    rw [takePacket_eq]
  simp only [taker?, clock]
  cases claimed : Packet.claimedSender? second state.clock.epoch with
  | none => rfl
  | some sender => exact find?_takePacket_of_unclaimed keyed (apart.symm sender claimed)

theorem arrival_takePacket (keyed : state.Keyed) (localSink : Sink)
    (source other : SocketAddress) :
    (state.takePacket localSink first source).arrival localSink second other =
      state.arrival localSink second other := by
  have clock : (state.takePacket localSink first source).clock = state.clock := by
    rw [takePacket_eq]
  simp only [arrival, clock]
  cases claimed : Packet.claimedSender? second state.clock.epoch with
  | none => rfl
  | some sender =>
      simp only [find?_takePacket_of_unclaimed keyed (apart.symm sender claimed)]

theorem ne_of_taker? (keyed : state.Keyed) {one two : Handle × Session}
    (takesFirst : state.taker? first = some one) (takesSecond : state.taker? second = some two) :
    one.1 ≠ two.1 := by
  rcases taker?_eq_some_iff.mp takesFirst with ⟨sender, claimed, mapped, -⟩
  rcases taker?_eq_some_iff.mp takesSecond with ⟨otherSender, otherClaimed, otherMapped, -⟩
  intro same
  rw [same] at mapped
  rw [keyed.injective mapped otherMapped] at claimed
  exact apart otherSender claimed otherClaimed

/-! ## Two packets -/

theorem channelsTaking_comm (keyed : state.Keyed) (localSink : Sink)
    (source other : SocketAddress) :
    (state.takePacket localSink second other).channelsTaking localSink first source =
      (state.takePacket localSink first source).channelsTaking localSink second other := by
  simp only [channelsTaking, taker?_takePacket apart keyed, taker?_takePacket apart.symm keyed]
  simp only [takePacket_eq, channelsTaking]
  cases one : state.taker? first with
  | none => rfl
  | some taker =>
      cases two : state.taker? second with
      | none => rfl
      | some otherTaker => exact List.set_comm _ _ (ne_of_taker? apart keyed one two).symm

/-- What one packet after another does, if they are of different tunnels. -/
theorem takePacket_takePacket (keyed : state.Keyed) (localSink : Sink)
    (source other : SocketAddress) :
    (state.takePacket localSink first source).takePacket localSink second other =
      { state with
        channels := (state.takePacket localSink first source).channelsTaking localSink second other
        counters := state.counters +
          (state.arrival localSink first source).tally state.outages +
          (state.arrival localSink second other).tally state.outages
        written := state.written ++
          (state.arrival localSink first source).writes state.outages ++
          (state.arrival localSink second other).writes state.outages } := by
  have later := takePacket_eq localSink second other (state.takePacket localSink first source)
  rw [arrival_takePacket apart keyed] at later
  rw [later, takePacket_eq localSink first source]

end State

/-- Two packets that do not claim one identity do the same in either order: the sessions, the mapping
and the counters are the same, and each of the packets makes the server write what it would have made
it write alone.  A packet changes nothing of the mapping, and no session but the one that is mapped to
the identity that it claims. -/
theorem packets_of_two_tunnels_commute {link : LocalLink} {state : State Session}
    (reachable : Reachable link (fun _ => True) state) (localSink : Sink) :
    (∀ first second source other, Packet.ClaimApart state.clock.epoch first second →
        let one := state.takePacket localSink first source
        let two := state.takePacket localSink second other
        let both := one.takePacket localSink second other
        let swapped := two.takePacket localSink first source
        swapped = { both with written := swapped.written } ∧
          ∃ writesOne writesTwo, one.written = state.written ++ writesOne ∧
            two.written = state.written ++ writesTwo ∧
            both.written = state.written ++ writesOne ++ writesTwo ∧
            swapped.written = state.written ++ writesTwo ++ writesOne) ∧
      (∀ packet source,
        let after := state.takePacket localSink packet source
        after.registry = state.registry ∧ after.channels.length = state.channels.length ∧
          ∀ handle, (∀ identity, Packet.claimedSender? packet state.clock.epoch = some identity →
              state.registry.lookup identity ≠ some handle) →
            after.channels[handle]? = state.channels[handle]?) := by
  have keyed := reachable.keyed
  refine ⟨?_, ?_⟩
  · intro first second source other apart one two both swapped
    have bothEq := State.takePacket_takePacket apart keyed localSink source other
    have swappedEq := State.takePacket_takePacket apart.symm keyed localSink other source
    rw [State.channelsTaking_comm apart keyed, add_right_comm] at swappedEq
    have writtenOne : one.written = state.written ++ _ :=
      congrArg State.written (State.takePacket_eq localSink first source state)
    have writtenTwo : two.written = state.written ++ _ :=
      congrArg State.written (State.takePacket_eq localSink second other state)
    refine ⟨?_, _, _, writtenOne, writtenTwo, congrArg State.written bothEq,
      congrArg State.written swappedEq⟩
    simp only [both, swapped, one, two, bothEq, swappedEq]
  · intro packet source after
    refine ⟨?_, ?_, ?_⟩
    · simp only [after, State.takePacket_eq]
    · simp only [after, State.takePacket_eq, State.channelsTaking]
      split
      · rfl
      · exact List.length_set
    · intro handle elsewhere
      exact State.getElem?_takePacket_of_elsewhere elsewhere

/-! ## Two neighbours -/

namespace Sample

/-- The record of another tunnel. -/
def neighbour : TunnelRecord where
  tunnelId := "T2"
  endpoint := { octets := [0x20, 0x01, 0x0d, 0xb8, 0, 0, 0, 0, 0, 0, 0, 0, 0, 0, 0, 3] }
  pop := record.pop
  ipv4Pop := some Ipv4Address.unspecified
  password := "another"

/-- A server with both tunnels, of which neither is connected. -/
def neighbours : State Session :=
  (SessionOperation.run localLink empty
    [.create record, .create neighbour, .common (.install 0), .common (.install 1)]).1

/-- What the end of a tunnel sends to the server at its start. -/
def forwarded (record : TunnelRecord) (datagram : Bytes) : Bytes :=
  Packet.encode ⟨.forward, .ipv6, 1700000000, record.endpoint⟩ record.sharedKey datagram

theorem claimedSender?_forwarded (record : TunnelRecord) {datagram : Bytes}
    (small : Packet.headerLength + datagram.length ≤ 65535) :
    Packet.claimedSender? (forwarded record datagram) neighbours.clock.epoch =
      some record.endpoint := by
  have close : Packet.Limits.standard.acceptsSkew 1700000000 neighbours.clock.epoch = true := by
    decide
  refine Packet.claimedSender?_eq_some_iff.mpr ⟨_, Packet.readHeader_encode ?_ close, rfl⟩
  rw [Packet.length_encode]
  exact small

end Sample

/-- Two neighbours each send a datagram, and both are written in the order in which they come. -/
theorem packets_of_neighbours_commute :
    let one := Sample.forwarded Sample.record [0x60, 1]
    let two := Sample.forwarded Sample.neighbour [0x60, 2]
    let source : SocketAddress := .v4 Ipv4Address.unspecified 5072
    let both := (Sample.neighbours.takePacket "local" one source).takePacket "local" two source
    let swapped := (Sample.neighbours.takePacket "local" two source).takePacket "local" one source
    Reachable Sample.localLink (fun _ => True) Sample.neighbours ∧
      Packet.ClaimApart Sample.neighbours.clock.epoch one two ∧
      both.written = [⟨"local", [0x60, 1]⟩, ⟨"local", [0x60, 2]⟩] ∧
      swapped.written = [⟨"local", [0x60, 2]⟩, ⟨"local", [0x60, 1]⟩] ∧
      swapped = { both with written := swapped.written } := by
  intro one two source both swapped
  have start : Reachable Sample.localLink (fun _ => True) Sample.empty :=
    ⟨Sample.empty.clock, .start⟩
  have reachable : Reachable Sample.localLink (fun _ => True) Sample.neighbours :=
    start.run _ fun _ _ => trivial
  have apart : Packet.ClaimApart Sample.neighbours.clock.epoch one two := by
    intro identity claimed other
    cases (Sample.claimedSender?_forwarded Sample.record (by decide)).symm.trans claimed
    cases (Sample.claimedSender?_forwarded Sample.neighbour (by decide)).symm.trans other
  have writesOne : Sample.neighbours.Writes (Sample.neighbours.takePacket "local" one source)
      ⟨"local", [0x60, 1]⟩ := by
    have known : Sample.neighbours.channels[0]? = some Sample.session := rfl
    refine State.writes_of_brings reachable.keyed ((State.brings_encode_iff rfl known).mpr ?_)
    exact ⟨by simp, by decide, fun _ => ⟨_, _, rfl, rfl⟩⟩
  have writesTwo : Sample.neighbours.Writes (Sample.neighbours.takePacket "local" two source)
      ⟨"local", [0x60, 2]⟩ := by
    have known : Sample.neighbours.channels[1]? =
        some ⟨Session.profileOf Sample.neighbour, none, 0, 0, false, 0⟩ := rfl
    refine State.writes_of_brings reachable.keyed ((State.brings_encode_iff rfl known).mpr ?_)
    exact ⟨by simp, by decide, fun _ => ⟨_, _, rfl, rfl⟩⟩
  rcases (packets_of_two_tunnels_commute reachable "local").1 one two source source apart with
    ⟨same, first, second, afterOne, afterTwo, inOrder, swappedOrder⟩
  have wroteFirst : [⟨"local", [0x60, 1]⟩] = first := writesOne.written.symm.trans afterOne
  have wroteSecond : [⟨"local", [0x60, 2]⟩] = second := writesTwo.written.symm.trans afterTwo
  subst wroteFirst wroteSecond
  exact ⟨reachable, apart, inOrder, swappedOrder, same⟩

end TunnelServer
