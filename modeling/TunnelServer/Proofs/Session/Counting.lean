import TunnelServer.Proofs.Run.Reachable
import TunnelServer.Proofs.Session.Reception

/-!
# What a session counts

A session keeps two records of the packets it is given: how many it could not use, and whether it
could ever use one.  Here calls of all kinds are made on a session, one after the other, while time
goes by, and both records are read off the packets given in those calls.  Nothing but a packet ever
touches them.
-/

namespace TunnelServer

/-- What a tunnel can use: a sign of life, or a forwarded datagram that is not empty. -/
def Packet.Verified.Usable (verified : Packet.Verified) : Prop :=
  verified.header.opcode = .noop ∨ verified.header.opcode = .forward ∧ verified.payload ≠ []

theorem Profile.judge_ne_invalid_iff {profile : Profile} {here : Epoch} {packet : Bytes} :
    profile.judge here packet ≠ .invalid ↔
      ∃ verified, Packet.verify packet profile.key profile.senders here Packet.Limits.standard =
        .ok verified ∧ verified.Usable := by
  simp only [judge]
  cases Packet.verify packet profile.key profile.senders here Packet.Limits.standard with
  | error error => simp
  | ok verified =>
      simp only [Except.ok.injEq, exists_eq_left', Packet.Verified.Usable]
      cases verified.header.opcode <;> simp [Packet.Opcode.isActionable]

namespace Session

/-- What can be done with a session. -/
inductive Call where
  | advance (nanos : Nat)
  | connect (sink : Sink) (peer : SocketAddress)
  | reconnect (sink : Sink) (peer : SocketAddress)
  | close
  | checkLive
  | receive (packet : Bytes)
  | send (datagram : Bytes)
  | beat
  | heartbeatDue

/-- A session at the moment that a clock shows. -/
structure Moment where
  clock : Clock
  session : Session

/-- A packet is given to a session at some moment. -/
structure Reception extends Moment where
  packet : Bytes

namespace Moment

/-- The moment after a call. -/
def after (moment : Moment) : Call → Moment
  | .advance nanos => { moment with clock := moment.clock.advance nanos }
  | .connect sink peer =>
    { moment with session := (moment.session.connect moment.clock sink peer).1 }
  | .reconnect sink peer =>
    { moment with session := (moment.session.reconnect moment.clock sink peer).1 }
  | .close => { moment with session := moment.session.close }
  | .checkLive => { moment with session := (moment.session.checkLive moment.clock).1 }
  | .receive packet => { moment with session := (moment.session.receive moment.clock packet).1 }
  | .send datagram => { moment with session := (moment.session.send moment.clock datagram).1 }
  | .beat => { moment with session := (moment.session.beat moment.clock).1 }
  | .heartbeatDue => moment

/-- The moment after some calls, made one after the other. -/
def afterAll (moment : Moment) (calls : List Call) : Moment := calls.foldl after moment

/-- The packet that is given in a call, if it is a call of that kind. -/
def given (moment : Moment) : Call → List Reception
  | .receive packet => [⟨moment, packet⟩]
  | _ => []

/-- The packets that are given in some calls, made one after the other. -/
def receptions : Moment → List Call → List Reception
  | _, [] => []
  | moment, call :: later => moment.given call ++ (moment.after call).receptions later

end Moment

namespace Reception

/-- What the session answers. -/
def answer (reception : Reception) : Except ChannelError Action :=
  (reception.session.receive reception.clock reception.packet).2

/-- The session has a peer, and the packet is verified with its key, for the two ends of its tunnel
as senders, at that moment. -/
structure VerifiedAs (reception : Reception) (verified : Packet.Verified) : Prop where
  linked : reception.session.link.isSome
  verified : Packet.verify reception.packet reception.session.profile.key
    [reception.session.profile.identity, reception.session.profile.popIdentity]
    reception.clock.epoch Packet.Limits.standard = .ok verified

/-- The session can use the packet. -/
def Good (reception : Reception) : Prop :=
  ∃ verified, reception.VerifiedAs verified ∧ verified.Usable

/-- The packet brings the session a datagram. -/
def Forwards (reception : Reception) : Prop :=
  ∃ verified, reception.VerifiedAs verified ∧ verified.header.opcode = .forward ∧
    verified.payload ≠ []

theorem good_iff (reception : Reception) :
    reception.Good ↔ reception.session.link.isSome ∧
      reception.session.profile.judge reception.clock.epoch reception.packet ≠ .invalid := by
  rw [Profile.judge_ne_invalid_iff]
  constructor
  · rintro ⟨verified, as, usable⟩
    exact ⟨as.linked, verified, as.verified, usable⟩
  · rintro ⟨linked, verified, found, usable⟩
    exact ⟨verified, ⟨linked, found⟩, usable⟩

instance (reception : Reception) : Decidable reception.Good :=
  decidable_of_iff _ reception.good_iff.symm

/-- The session answers without an error, but cannot use the packet. -/
def Wasted (reception : Reception) : Prop := reception.answer.isOk = true ∧ ¬reception.Good

instance (reception : Reception) : Decidable reception.Wasted :=
  inferInstanceAs (Decidable (_ ∧ _))

theorem VerifiedAs.enough {reception : Reception} {verified : Packet.Verified}
    (as : reception.VerifiedAs verified) : Packet.headerLength ≤ reception.packet.length :=
  (Packet.readHeader_eq_ok_iff.mp (Packet.readHeader_of_verify as.verified)).1

theorem VerifiedAs.payload_eq {reception : Reception} {verified : Packet.Verified}
    (as : reception.VerifiedAs verified) :
    verified.payload = reception.packet.drop Packet.headerLength := by
  rcases Packet.verify_eq_ok_iff.mp as.verified with ⟨same, -⟩
  rw [same, Packet.drop_encode]

/-- The payload is delivered to the place on record if the packet brings a datagram, and nothing is
delivered otherwise. -/
theorem answer_eq_deliver_iff (reception : Reception) (payload : Bytes) (sink : Sink) :
    reception.answer = .ok (.deliver payload sink) ↔
      reception.Forwards ∧ payload = reception.packet.drop Packet.headerLength ∧
        reception.session.link.map Link.sink = some sink := by
  constructor
  · intro delivered
    simp only [answer, receive] at delivered
    split at delivered
    · cases delivered
    · rename_i link linked
      split at delivered
      · cases delivered
      · split at delivered
        · cases delivered
        · cases delivered
        · rename_i carried judged
          cases delivered
          rcases Profile.judge_eq_carries_iff.mp judged with ⟨header, found, forward, filled⟩
          have as : reception.VerifiedAs ⟨header, payload⟩ := ⟨by simp [linked], found⟩
          exact ⟨⟨_, as, forward, filled⟩, as.payload_eq, congrArg (Option.map Link.sink) linked⟩
  · rintro ⟨⟨⟨header, found⟩, as, forward, filled⟩, rfl, recorded⟩
    rcases Option.map_eq_some_iff.mp recorded with ⟨link, linked, rfl⟩
    have carries : reception.session.profile.judge reception.clock.epoch reception.packet =
        .carries found :=
      Profile.judge_eq_carries_iff.mpr ⟨header, as.verified, forward, filled⟩
    rw [answer, snd_receive reception.clock linked as.enough, carries, ← as.payload_eq]

theorem invalidCount_receive (reception : Reception) :
    (reception.session.receive reception.clock reception.packet).1.invalidCount =
      reception.session.invalidCount + if reception.Wasted then 1 else 0 := by
  simp only [Wasted, good_iff, answer, receive]
  split
  · simp [Except.isOk, Except.toBool]
  · rename_i link linked
    split
    · simp [Except.isOk, Except.toBool]
    · split
      · rename_i judged
        simp [countInvalid, judged, Except.isOk, Except.toBool]
      · rename_i judged
        simp [judged, linked]
      · rename_i payload judged
        simp [judged, linked]

theorem validSeen_receive (reception : Reception) :
    (reception.session.receive reception.clock reception.packet).1.validSeen = true ↔
      reception.session.validSeen = true ∨ reception.Good := by
  by_cases enough : Packet.headerLength ≤ reception.packet.length
  · simp only [good_iff, receive, Nat.not_lt.mpr enough, if_false]
    split
    · rename_i unlinked
      simp [unlinked]
    · rename_i link linked
      split
      · rename_i judged
        simp [countInvalid, judged]
      · rename_i judged
        simp [judged, linked]
      · rename_i payload judged
        simp [judged, linked]
  · have bad : ¬reception.Good := by
      rintro ⟨verified, as, -⟩
      exact enough as.enough
    simp only [bad, or_false, receive, Nat.not_le.mp enough, if_true]
    split <;> rfl

end Reception

/-! ## One call after the other -/

namespace Moment

variable {moment : Moment} {call : Call}

/-- A call in which no packet is given touches neither record. -/
theorem counters_after (other : ∀ packet, call ≠ .receive packet) (moment : Moment) :
    (moment.after call).session.invalidCount = moment.session.invalidCount ∧
      (moment.after call).session.validSeen = moment.session.validSeen := by
  cases call with
  | advance nanos => exact ⟨rfl, rfl⟩
  | connect sink peer =>
      simp only [after, connect]
      split <;> exact ⟨rfl, rfl⟩
  | reconnect sink peer =>
      simp only [after, reconnect]
      split <;> exact ⟨rfl, rfl⟩
  | close => exact ⟨rfl, rfl⟩
  | checkLive =>
      simp only [after, checkLive]
      split
      · exact ⟨rfl, rfl⟩
      · split <;> exact ⟨rfl, rfl⟩
  | receive packet => exact absurd rfl (other packet)
  | send datagram =>
      simp only [after, send, pack]
      split
      · exact ⟨rfl, rfl⟩
      · split <;> exact ⟨rfl, rfl⟩
  | beat =>
      simp only [after, beat, pack]
      split <;> exact ⟨rfl, rfl⟩
  | heartbeatDue => exact ⟨rfl, rfl⟩

theorem given_of_other (other : ∀ packet, call ≠ .receive packet) (moment : Moment) :
    moment.given call = [] := by
  cases call with
  | receive packet => exact absurd rfl (other packet)
  | _ => rfl

theorem changes_after (moment : Moment) (call : Call) :
    Changes moment.clock True moment.session (moment.after call).session := by
  cases call with
  | advance nanos => exact .refl
  | connect sink peer => exact changes_connect moment.session sink peer trivial
  | reconnect sink peer => exact changes_reconnect moment.session sink peer
  | close => exact changes_close moment.session
  | checkLive => exact changes_checkLive moment.session
  | receive packet => exact changes_receive moment.session packet
  | send datagram => exact changes_send moment.session datagram
  | beat => exact changes_beat moment.session
  | heartbeatDue => exact .refl

theorem invalidCount_after (moment : Moment) (call : Call) :
    (moment.after call).session.invalidCount =
      moment.session.invalidCount + (moment.given call).countP (·.Wasted) := by
  by_cases packets : ∃ packet, call = .receive packet
  · rcases packets with ⟨packet, rfl⟩
    simp only [given, List.countP_singleton, decide_eq_true_eq]
    exact Reception.invalidCount_receive ⟨moment, packet⟩
  · have other := not_exists.mp packets
    rw [given_of_other other]
    exact (counters_after other moment).1

theorem validSeen_after (moment : Moment) (call : Call) :
    (moment.after call).session.validSeen = true ↔
      moment.session.validSeen = true ∨ ∃ reception ∈ moment.given call, reception.Good := by
  by_cases packets : ∃ packet, call = .receive packet
  · rcases packets with ⟨packet, rfl⟩
    simp only [given, List.mem_singleton, exists_eq_left]
    exact Reception.validSeen_receive ⟨moment, packet⟩
  · have other := not_exists.mp packets
    rw [given_of_other other, (counters_after other moment).2]
    simp

theorem invalidCount_afterAll (calls : List Call) (moment : Moment) :
    (moment.afterAll calls).session.invalidCount =
      moment.session.invalidCount + (moment.receptions calls).countP (·.Wasted) := by
  induction calls generalizing moment with
  | nil => rfl
  | cons call later hypothesis =>
      simp only [afterAll, List.foldl_cons, receptions, List.countP_append] at hypothesis ⊢
      rw [hypothesis, invalidCount_after, Nat.add_assoc]

theorem validSeen_afterAll (calls : List Call) (moment : Moment) :
    (moment.afterAll calls).session.validSeen = true ↔
      moment.session.validSeen = true ∨ ∃ reception ∈ moment.receptions calls, reception.Good := by
  induction calls generalizing moment with
  | nil => simp [afterAll, receptions]
  | cons call later hypothesis =>
      simp only [afterAll, List.foldl_cons, receptions, List.mem_append] at hypothesis ⊢
      rw [hypothesis, validSeen_after, or_assoc]
      simp only [or_and_right, exists_or]

theorem profile_of_mem_receptions {calls : List Call} {moment : Moment} {reception : Reception}
    (there : reception ∈ moment.receptions calls) :
    reception.session.profile = moment.session.profile := by
  induction calls generalizing moment with
  | nil => cases there
  | cons call later hypothesis =>
      rcases List.mem_append.mp there with now | soon
      · cases call with
        | receive packet =>
            rw [List.mem_singleton.mp now]
        | _ => cases now
      · exact (hypothesis soon).trans (changes_after moment call).profile_eq

theorem afterAll_append (earlier later : List Call) (moment : Moment) :
    moment.afterAll (earlier ++ later) = (moment.afterAll earlier).afterAll later :=
  List.foldl_append

end Moment

/-- At every point of the life of a session, whatever calls were made on it, the packets that it has
counted as invalid are those that it answered without an error though they were not good, and it has
seen a valid packet if and only if one was good.  A payload is delivered for exactly the good packets
that forward one, and is what follows the header of the packet.  So the count never falls and the
mark is never taken back, and no other call touches either. -/
theorem counters_tell_receptions {record : TunnelRecord} {clock : Clock} {session : Session}
    (made : Session.create record clock = .ok session) (calls : List Call) :
    let start : Moment := ⟨clock, session⟩
    let history := start.receptions calls
    let now := (start.afterAll calls).session
    now.invalidCount = history.countP (·.Wasted) ∧
      (now.validSeen = true ↔ ∃ reception ∈ history, reception.Good) ∧
      (∀ reception ∈ history, reception.session.profile = profileOf record ∧
        ∀ payload sink, reception.answer = .ok (.deliver payload sink) ↔
          reception.Forwards ∧ payload = reception.packet.drop Packet.headerLength ∧
            reception.session.link.map Link.sink = some sink) ∧
      (∀ earlier later, calls = earlier ++ later →
        (start.afterAll earlier).session.invalidCount ≤ now.invalidCount ∧
          ((start.afterAll earlier).session.validSeen = true → now.validSeen = true)) ∧
      (∀ (moment : Moment) (call : Call), (∀ packet, call ≠ .receive packet) →
        (moment.after call).session.invalidCount = moment.session.invalidCount ∧
          (moment.after call).session.validSeen = moment.session.validSeen) := by
  intro start history now
  have fresh : session.profile = profileOf record ∧ session.invalidCount = 0 ∧
      session.validSeen = false := by
    simp only [create] at made
    split at made
    · cases made
    · cases made
      exact ⟨rfl, rfl, rfl⟩
  rcases fresh with ⟨profile, none, unseen⟩
  refine ⟨?_, ?_, ?_, ?_, fun moment call other => Moment.counters_after other moment⟩
  · have counted := Moment.invalidCount_afterAll calls start
    simp only [start, none, Nat.zero_add] at counted
    exact counted
  · have seen := Moment.validSeen_afterAll calls start
    simp only [start, unseen, Bool.false_eq_true, false_or] at seen
    exact seen
  · intro reception there
    exact ⟨(Moment.profile_of_mem_receptions there).trans profile,
      reception.answer_eq_deliver_iff⟩
  · rintro earlier later rfl
    have appended := Moment.afterAll_append earlier later start
    refine ⟨?_, ?_⟩
    · simp only [now, appended, Moment.invalidCount_afterAll later]
      exact Nat.le_add_right _ _
    · intro seen
      simp only [now, appended, Moment.validSeen_afterAll later]
      exact .inl seen

/-- A connected session counts a packet of zeros, and by a heartbeat it has seen a valid packet. -/
theorem counters_tell_two :
    let connected : Call := .connect "local" (.v4 Ipv4Address.unspecified 5072)
    let zeros : Call := .receive (List.replicate 44 0)
    let heartbeat : Call := .receive
      (Packet.encode (.heartbeat Sample.identity 1700000000) Sample.record.sharedKey [])
    let start : Moment := ⟨Sample.empty.clock, Sample.session⟩
    Session.create Sample.record Sample.empty.clock = .ok Sample.session ∧
      (start.afterAll [connected, zeros, .close, zeros]).session.invalidCount = 1 ∧
      (start.afterAll [connected, heartbeat]).session.validSeen = true := by
  intro connected zeros heartbeat start
  have made : Session.create Sample.record Sample.empty.clock = .ok Sample.session := rfl
  refine ⟨made, ?_, ?_⟩
  · rw [(counters_tell_receptions made _).1]
    decide
  · refine (counters_tell_receptions made _).2.1.mpr ⟨_, List.mem_singleton_self _, ?_⟩
    refine ⟨⟨.heartbeat Sample.identity 1700000000, []⟩, ⟨rfl, ?_⟩, .inl rfl⟩
    refine Packet.verify_eq_ok_iff.mpr ⟨rfl, List.mem_cons_self, by decide, ?_, nofun⟩
    rw [Packet.length_encode]
    decide

end Session

end TunnelServer
