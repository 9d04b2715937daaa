import TunnelServer.Proofs.Packet.Admission

/-!
# What a header has to meet

The conditions on a header are laid down one by one, read straight from the octets of a packet, in the
order in which they count.  A header is read if and only if all of them are met; otherwise the error is
that of the first one that is not, with the value that was found.  Whatever follows the signed part of a
packet plays no role but by its length.
-/

namespace TunnelServer.Packet

/-- A condition on the header of a packet. -/
inductive Condition where
  | longEnough | notTooLong | identityOctet | signatureOctet | authentication | opcode | nextHeader
  | clock
  deriving DecidableEq

/-- The stamp of a packet: a signed number in four octets. -/
def stamp (packet : Bytes) : Int :=
  let number := 16777216 * (packet.getD 4 0).toNat + 65536 * (packet.getD 5 0).toNat +
    256 * (packet.getD 6 0).toNat + (packet.getD 7 0).toNat
  if number < 2147483648 then number else number - 4294967296

namespace Condition

/-- The conditions in the order in which they count. -/
def all : List Condition :=
  [longEnough, notTooLong, identityOctet, signatureOctet, authentication, opcode, nextHeader, clock]

/-- What a condition says of a packet that arrives at a stamp, under some limits. -/
def Met (packet : Bytes) (here : Epoch) (limits : Limits) : Condition → Prop
  | longEnough => 44 ≤ packet.length
  | notTooLong => packet.length ≤ limits.maxBytes
  | identityOctet => packet.getD 0 0 = 0x41
  | signatureOctet => packet.getD 1 0 = 0x52
  | authentication => Nibble.high (packet.getD 2 0) = 1
  | opcode => ∃ opcode : Opcode, Nibble.low (packet.getD 2 0) = opcode.code
  | nextHeader => ∃ nextHeader : NextHeader, packet.getD 3 0 = nextHeader.code
  | clock => (here.toInt - stamp packet).natAbs ≤ limits.maxClockSkew

/-- The error for a packet that does not meet a condition. -/
def error (packet : Bytes) (here : Epoch) (limits : Limits) : Condition → DecodeError
  | longEnough => .tooSmall packet.length 44
  | notTooLong => .tooLarge packet.length limits.maxBytes
  | identityOctet => .invalidIdentityOctet (packet.getD 0 0)
  | signatureOctet => .invalidSignatureOctet (packet.getD 1 0)
  | authentication => .unsupportedAuthentication (Nibble.high (packet.getD 2 0))
  | opcode => .unknownOpcode (Nibble.low (packet.getD 2 0))
  | nextHeader => .unknownNextHeader (packet.getD 3 0)
  | clock => .clockSkew (Int32.ofInt (stamp packet)) here

/-- A condition is not met, but those that count before it are. -/
structure FirstUnmet (packet : Bytes) (here : Epoch) (limits : Limits) (condition : Condition) :
    Prop where
  unmet : ¬condition.Met packet here limits
  earlier : ∀ other ∈ all.takeWhile (· ≠ condition), other.Met packet here limits

end Condition

variable {packet other : Bytes} {here : Epoch} {limits : Limits} {condition : Condition}
variable {header : Header} {error : DecodeError}

/-! ## The fields of the header -/

/-- A field of four octets holds the signed number that they stand for. -/
theorem toInt_ofOctets {field : Bytes} (four : field.length = 4) :
    (Epoch.ofOctets field).toInt =
      if BigEndian.decode field < 2147483648 then (BigEndian.decode field : Int)
      else (BigEndian.decode field : Int) - 4294967296 := by
  have small := BigEndian.decode_lt field
  rw [four] at small
  have small : BigEndian.decode field < 4294967296 := small
  have stored : (UInt32.ofNat (BigEndian.decode field)).toBitVec.toNat =
      BigEndian.decode field := by
    rw [UInt32.toNat_toBitVec, UInt32.toNat_ofNat']
    exact Nat.mod_eq_of_lt small
  have signed : (Epoch.ofOctets field).toInt =
      (UInt32.ofNat (BigEndian.decode field)).toBitVec.toInt := rfl
  rw [signed, BitVec.toInt_eq_toNat_cond, stored]
  split <;> split <;> omega

theorem toInt_epochField (enough : 44 ≤ packet.length) :
    (Epoch.ofOctets ((packet.drop 4).take 4)).toInt = stamp packet := by
  have four : ((packet.drop 4).take 4).length = 4 := by
    rw [List.length_take, List.length_drop]
    omega
  rw [toInt_ofOctets four]
  rcases packet with _ | ⟨_, _ | ⟨_, _ | ⟨_, _ | ⟨_, _ | ⟨first, _ | ⟨second, _ | ⟨third,
    _ | ⟨fourth, rest⟩⟩⟩⟩⟩⟩⟩⟩
  all_goals simp only [List.length_nil, List.length_cons] at enough
  any_goals omega
  have number : BigEndian.decode [first, second, third, fourth] =
      16777216 * first.toNat + 65536 * second.toNat + 256 * third.toNat + fourth.toNat := by
    simp only [BigEndian.decode, List.foldl_cons, List.foldl_nil]
    omega
  simp only [List.drop_succ_cons, List.drop_zero, List.take_succ_cons, List.take_zero, number]
  rfl

theorem epochField_eq (enough : 44 ≤ packet.length) :
    Epoch.ofOctets ((packet.drop 4).take 4) = Int32.ofInt (stamp packet) := by
  rw [← toInt_epochField enough, Int32.ofInt_toInt]

theorem Opcode.ofCode?_eq_none_iff {code : UInt8} :
    Opcode.ofCode? code = none ↔ ¬∃ opcode : Opcode, code = opcode.code := by
  rw [Option.eq_none_iff_forall_ne_some, not_exists]
  exact forall_congr' fun opcode => not_congr ofCode?_eq_some_iff

theorem NextHeader.ofCode?_eq_none_iff {code : UInt8} :
    NextHeader.ofCode? code = none ↔ ¬∃ nextHeader : NextHeader, code = nextHeader.code := by
  rw [Option.eq_none_iff_forall_ne_some, not_exists]
  exact forall_congr' fun nextHeader => not_congr ofCode?_eq_some_iff

theorem identityOctet_eq : identityOctet = 0x41 := rfl

theorem signatureOctet_eq : signatureOctet = 0x52 := rfl

/-! ## Condition by condition -/

theorem Condition.met_append {earlier : List Condition} (condition : Condition)
    (met : ∀ other ∈ earlier, other.Met packet here limits)
    (holds : condition.Met packet here limits) :
    ∀ other ∈ earlier ++ [condition], other.Met packet here limits := by
  intro other member
  rcases List.mem_append.mp member with before | last
  · exact met other before
  · rw [List.mem_singleton.mp last]
    exact holds

/-- From a packet of a size that is accepted the fields are read and all conditions are met, or the
first one that is not is reported. -/
theorem readFields_cases (enough : 44 ≤ packet.length) (small : packet.length ≤ limits.maxBytes) :
    (∃ header, readFields packet here limits enough = .ok header ∧
        ∀ condition : Condition, condition.Met packet here limits) ∨
      ∃ condition : Condition, readFields packet here limits enough =
          .error (condition.error packet here limits) ∧
        condition.FirstUnmet packet here limits := by
  -- The conditions met so far are carried from check to check.
  have met : ∀ other ∈ [Condition.longEnough, Condition.notTooLong],
      other.Met packet here limits := by
    simpa [Condition.Met] using ⟨enough, small⟩
  simp only [readFields, identityOctet_eq, signatureOctet_eq]
  split
  · rename_i other
    exact .inr ⟨.identityOctet, rfl, other, met⟩
  rename_i first
  have met := Condition.met_append .identityOctet met (not_not.mp first)
  split
  · rename_i other
    exact .inr ⟨.signatureOctet, rfl, other, met⟩
  rename_i second
  have met := Condition.met_append .signatureOctet met (not_not.mp second)
  split
  · rename_i other
    exact .inr ⟨.authentication, rfl, other, met⟩
  rename_i third
  have met := Condition.met_append .authentication met (not_not.mp third)
  split
  · rename_i unknown
    exact .inr ⟨.opcode, rfl, Opcode.ofCode?_eq_none_iff.mp unknown, met⟩
  rename_i opcode opcodeFound
  have met := Condition.met_append .opcode met
    ⟨opcode, Opcode.ofCode?_eq_some_iff.mp opcodeFound⟩
  split
  · rename_i unknown
    exact .inr ⟨.nextHeader, rfl, NextHeader.ofCode?_eq_none_iff.mp unknown, met⟩
  rename_i nextHeader nextHeaderFound
  have met := Condition.met_append .nextHeader met
    ⟨nextHeader, NextHeader.ofCode?_eq_some_iff.mp nextHeaderFound⟩
  split
  · rename_i close
    rw [Limits.acceptsSkew_iff, toInt_epochField enough] at close
    have met := Condition.met_append .clock met close
    refine .inl ⟨_, rfl, fun condition => met condition ?_⟩
    cases condition <;> decide
  · rename_i far
    rw [Limits.acceptsSkew_iff, toInt_epochField enough] at far
    rw [epochField_eq enough]
    exact .inr ⟨.clock, rfl, far, met⟩

/-- A header is read and all conditions are met, or the first one that is not is reported. -/
theorem readHeader_cases (packet : Bytes) (here : Epoch) (limits : Limits) :
    (∃ header, readHeader packet here limits = .ok header ∧
        ∀ condition : Condition, condition.Met packet here limits) ∨
      ∃ condition : Condition, readHeader packet here limits =
          .error (condition.error packet here limits) ∧
        condition.FirstUnmet packet here limits := by
  simp only [readHeader]
  split
  · rename_i short
    exact .inr ⟨.longEnough, rfl, Nat.not_le.mpr short, List.forall_mem_nil _⟩
  rename_i notShort
  have enough : 44 ≤ packet.length := Nat.le_of_not_lt notShort
  split
  · rename_i large
    have met : ∀ other ∈ [Condition.longEnough], other.Met packet here limits := by
      simpa [Condition.Met] using enough
    exact .inr ⟨.notTooLong, rfl, Nat.not_le.mpr large, met⟩
  · rename_i notLarge
    exact readFields_cases enough (Nat.le_of_not_lt notLarge)

/-- Only one condition is the first that is not met. -/
theorem Condition.FirstUnmet.unique {later : Condition}
    (first : condition.FirstUnmet packet here limits)
    (second : later.FirstUnmet packet here limits) : condition = later := by
  have apart : ∀ condition later : Condition, condition ≠ later →
      condition ∈ all.takeWhile (· ≠ later) ∨ later ∈ all.takeWhile (· ≠ condition) := by
    intro condition later
    cases condition <;> cases later <;> decide
  refine Decidable.byContradiction fun different => ?_
  rcases apart condition later different with precedes | follows
  · exact first.unmet (second.earlier condition precedes)
  · exact second.unmet (first.earlier later follows)

theorem readHeader_eq_error_iff :
    readHeader packet here limits = .error error ↔
      ∃ condition : Condition, condition.FirstUnmet packet here limits ∧
        error = condition.error packet here limits := by
  constructor
  · intro refused
    rcases readHeader_cases packet here limits with ⟨header, read, -⟩ | ⟨condition, said, first⟩
    · rw [read] at refused
      cases refused
    · rw [said] at refused
      exact ⟨condition, first, (Except.error.inj refused).symm⟩
  · rintro ⟨condition, first, rfl⟩
    rcases readHeader_cases packet here limits with ⟨header, -, met⟩ | ⟨other, said, second⟩
    · exact absurd (met condition) first.unmet
    · rw [first.unique second, said]

/-! ## What plays no role -/

/-- A packet of the same length that starts with the same octets meets the same conditions, with the
same values to report. -/
theorem Condition.congr (here : Epoch) (limits : Limits) (long : other.length = packet.length)
    (start : other.take 24 = packet.take 24) (condition : Condition) :
    (condition.Met other here limits ↔ condition.Met packet here limits) ∧
      condition.error other here limits = condition.error packet here limits := by
  have octet : ∀ position < 24, other.getD position 0 = packet.getD position 0 := by
    intro position inside
    have same := congrArg (·.getD position 0) start
    simpa [List.getD_eq_getElem?_getD, List.getElem?_take, inside] using same
  have stamps : stamp other = stamp packet := by
    simp only [stamp, octet 4 (by omega), octet 5 (by omega), octet 6 (by omega),
      octet 7 (by omega)]
  cases condition with
  | longEnough | notTooLong => simp only [Met, error, long, and_self]
  | identityOctet => simp only [Met, error, octet 0 (by omega), and_self]
  | signatureOctet => simp only [Met, error, octet 1 (by omega), and_self]
  | authentication | opcode => simp only [Met, error, octet 2 (by omega), and_self]
  | nextHeader => simp only [Met, error, octet 3 (by omega), and_self]
  | clock => simp only [Met, error, stamps, and_self]

theorem readHeader_congr (long : other.length = packet.length)
    (start : other.take 24 = packet.take 24) :
    readHeader other here limits = readHeader packet here limits := by
  cases read : readHeader packet here limits with
  | ok header =>
    rcases readHeader_eq_ok_iff.mp read with ⟨enough, small, part, close⟩
    exact readHeader_eq_ok_iff.mpr ⟨long ▸ enough, long ▸ small, start.trans part, close⟩
  | error error =>
    rcases readHeader_eq_error_iff.mp read with ⟨condition, first, rfl⟩
    have same := Condition.congr here limits long start
    refine readHeader_eq_error_iff.mpr ⟨condition, ⟨?_, ?_⟩, (same condition).2.symm⟩
    · exact fun met => first.unmet ((same condition).1.mp met)
    · exact fun earlier counts => (same earlier).1.mpr (first.earlier earlier counts)

theorem claimedSender?_eq :
    claimedSender? packet here =
      (readHeader packet here Limits.standard).toOption.map Header.sender := by
  simp only [claimedSender?]
  cases readHeader packet here Limits.standard <;> rfl

/-- A header is read from a packet of at least 44 octets, within the size limit, that starts with the
24 octets written for that header and is stamped close enough to the local clock, the distance taken
over the integers.  From any other packet the error is that of the first condition it does not meet.
Only the length and the first 24 octets count, and the sender that a packet claims is that of its
header under the standard limits. -/
theorem readHeader_tells_first_unmet (packet : Bytes) (here : Epoch) (limits : Limits) :
    (∀ header, readHeader packet here limits = .ok header ↔
        44 ≤ packet.length ∧ packet.length ≤ limits.maxBytes ∧
          packet.take 24 = header.signedPart ∧
          (here.toInt - header.epoch.toInt).natAbs ≤ limits.maxClockSkew) ∧
      (∀ error, readHeader packet here limits = .error error ↔
        ∃ condition : Condition, condition.FirstUnmet packet here limits ∧
          error = condition.error packet here limits) ∧
      (∀ other : Bytes, other.length = packet.length → other.take 24 = packet.take 24 →
        readHeader other here limits = readHeader packet here limits) ∧
      claimedSender? packet here =
        (readHeader packet here Limits.standard).toOption.map Header.sender := by
  refine ⟨?_, ?_, ?_, claimedSender?_eq⟩
  · intro header
    rw [readHeader_eq_ok_iff, Limits.acceptsSkew_iff]
    exact Iff.rfl
  · exact fun error => readHeader_eq_error_iff
  · exact fun other long start => readHeader_congr long start

/-- A packet with an opcode and a next header that are both unknown, and `payload` behind its header. -/
def unknownTwice (payload : Bytes) : Bytes := [0x41, 0x52, 0x18, 0] ++ List.replicate 40 0 ++ payload

theorem readHeader_tells_unknown_opcode :
    readHeader (unknownTwice [0]) 0 Limits.trial = .error (.unknownOpcode 8) ∧
      readHeader (unknownTwice [1]) 0 Limits.trial = readHeader (unknownTwice [0]) 0 Limits.trial := by
  rcases readHeader_tells_first_unmet (unknownTwice [0]) 0 Limits.trial with ⟨-, refused, same, -⟩
  refine ⟨(refused _).mpr ⟨.opcode, ⟨?_, ?_⟩, rfl⟩, same (unknownTwice [1]) rfl rfl⟩
  · rintro ⟨opcode, known⟩
    revert known
    cases opcode <;> decide
  · intro earlier counts
    cases earlier with
    | longEnough | notTooLong => simp [Condition.Met, unknownTwice, Limits.trial]
    | identityOctet | signatureOctet | authentication => rfl
    | opcode | nextHeader | clock => exact absurd counts (by decide)

end TunnelServer.Packet
