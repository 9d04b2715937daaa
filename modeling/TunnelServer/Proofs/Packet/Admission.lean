import Mathlib.Logic.Basic
import TunnelServer.Packet.Admission

/-!
# What admission accepts

A header is read from a packet exactly when the packet starts with the signed part of that header,
its size is within bounds and its stamp is close enough to the local clock.  Verification adds the
sender, the signature and the version of a payload said to be IPv6, and so accepts exactly the
packets that `encode` builds with the same key: no octet of a packet is left unread, and none is
read differently from how it was written.

Of the digest only its length is used.
-/

namespace TunnelServer

namespace Nibble

/-- An octet is made of its two nibbles. -/
theorem pack_high_low (octet : UInt8) : pack (high octet) (low octet) = octet := by
  have all : ∀ value : Fin 256,
      pack (high (UInt8.ofFin value)) (low (UInt8.ofFin value)) = UInt8.ofFin value := by
    decide +kernel
  exact all octet.toFin

end Nibble

namespace Packet

@[simp]
theorem Limits.acceptsSkew_iff {limits : Limits} {sender here : Epoch} :
    limits.acceptsSkew sender here = true ↔
      (here.toInt - sender.toInt).natAbs ≤ limits.maxClockSkew := by
  simp [Limits.acceptsSkew]

/-! ## The header -/

theorem high_pack_opcode (opcode : Opcode) :
    Nibble.high (Nibble.pack Authentication.sharedSecret.code opcode.code) =
      Authentication.sharedSecret.code := by
  cases opcode <;> rfl

theorem low_pack_opcode (opcode : Opcode) :
    Nibble.low (Nibble.pack Authentication.sharedSecret.code opcode.code) = opcode.code := by
  cases opcode <;> rfl

/-- From a packet that starts with the signed part of a header, that header is read, unless its
stamp is too far from the local clock. -/
theorem readFields_signedPart_append (header : Header) (rest : Bytes) (here : Epoch)
    (limits : Limits) (enough : headerLength ≤ (header.signedPart ++ rest).length) :
    readFields (header.signedPart ++ rest) here limits enough =
      if limits.acceptsSkew header.epoch here then .ok header
      else .error (.clockSkew header.epoch here) := by
  have epochField : ((header.signedPart ++ rest).drop 4).take 4 = header.epoch.octets := by
    simp [Header.signedPart]
  have senderField : ((header.signedPart ++ rest).drop 8).take 16 = header.sender.octets := by
    simp [Header.signedPart, header.sender.length_octets]
  have opcode := Opcode.ofCode?_eq_some_iff.mpr (low_pack_opcode header.opcode)
  have nextHeader := NextHeader.ofCode?_eq_some_iff.mpr (Eq.refl header.nextHeader.code)
  simp only [readFields]
  simp only [epochField, senderField, Epoch.ofOctets_octets]
  simp [Header.signedPart, high_pack_opcode, opcode, nextHeader]

/-- A header that was read is written at the start of the packet, and its stamp is close enough to
the local clock. -/
theorem take_of_readFields {packet : Bytes} {here : Epoch} {limits : Limits}
    {enough : headerLength ≤ packet.length} {header : Header}
    (read : readFields packet here limits enough = .ok header) :
    packet.take signedLength = header.signedPart ∧ limits.acceptsSkew header.epoch here = true := by
  rcases packet with _ | ⟨first, _ | ⟨second, _ | ⟨third, _ | ⟨fourth, fields⟩⟩⟩⟩
  all_goals simp only [headerLength, List.length_nil, List.length_cons] at enough
  any_goals omega
  simp only [readFields] at read
  simp only [List.getD_cons_zero, List.getD_cons_succ, List.drop_succ_cons, List.drop_zero] at read
  split at read
  · cases read
  rename_i firstFits
  split at read
  · cases read
  rename_i secondFits
  split at read
  · cases read
  rename_i authenticationFits
  split at read
  · cases read
  rename_i opcode opcodeFound
  split at read
  · cases read
  rename_i nextHeader nextHeaderFound
  split at read
  · rename_i close
    cases read
    have four : (fields.take 4).length = 4 := by simp; omega
    have codes := Opcode.ofCode?_eq_some_iff.mp opcodeFound
    have thirdFits : Nibble.pack Authentication.sharedSecret.code opcode.code = third := by
      rw [← codes, ← not_not.mp authenticationFits, Nibble.pack_high_low]
    have fourthFits := NextHeader.ofCode?_eq_some_iff.mp nextHeaderFound
    refine ⟨?_, close⟩
    simp only [Header.signedPart, Epoch.octets_ofOctets four, thirdFits, ← fourthFits,
      ← not_not.mp firstFits, ← not_not.mp secondFits]
    simp only [signedLength, List.take_succ_cons, List.cons_append, List.nil_append]
    rw [← List.take_add]
  · cases read

/-- A header is read exactly from the packets within the size limits that start with its signed
part, if its stamp is close enough to the local clock. -/
theorem readHeader_eq_ok_iff {packet : Bytes} {here : Epoch} {limits : Limits} {header : Header} :
    readHeader packet here limits = .ok header ↔
      headerLength ≤ packet.length ∧ packet.length ≤ limits.maxBytes ∧
        packet.take signedLength = header.signedPart ∧
        limits.acceptsSkew header.epoch here = true := by
  simp only [readHeader]
  split
  · simp; omega
  · rename_i notSmall
    split
    · simp; omega
    · rename_i notLarge
      constructor
      · intro read
        exact ⟨Nat.le_of_not_lt notSmall, Nat.le_of_not_lt notLarge, take_of_readFields read⟩
      · rintro ⟨-, -, start, close⟩
        have split := List.take_append_drop signedLength packet
        rw [start] at split
        generalize packet.drop signedLength = rest at split
        subst split
        rw [readFields_signedPart_append, if_pos close]

/-- The sender that a packet claims is that of its header. -/
theorem claimedSender?_eq_some_iff {packet : Bytes} {here : Epoch} {sender : Identity} :
    claimedSender? packet here = some sender ↔
      ∃ header, readHeader packet here Limits.standard = .ok header ∧ header.sender = sender := by
  simp only [claimedSender?]
  cases readHeader packet here Limits.standard with
  | error error => simp
  | ok header => simp

/-! ## The whole packet -/

/-- A packet with room for a header is its signed part, a signature and a payload. -/
theorem eq_parts (packet : Bytes) :
    packet = packet.take signedLength ++ (packet.drop signedLength).take signatureLength ++
      packet.drop headerLength := by
  have later : packet.drop headerLength = (packet.drop signedLength).drop signatureLength := by
    rw [List.drop_drop]
    rfl
  rw [later, List.append_assoc, List.take_append_drop, List.take_append_drop]

@[simp]
theorem take_encode (header : Header) (key : SharedKey) (payload : Bytes) :
    (encode header key payload).take signedLength = header.signedPart := by
  rw [encode, List.append_assoc, List.take_append_of_le_length (by simp)]
  exact List.take_of_length_le (by simp)

@[simp]
theorem drop_encode (header : Header) (key : SharedKey) (payload : Bytes) :
    (encode header key payload).drop headerLength = payload := by
  rw [encode, List.drop_append_of_le_length]
  all_goals simp [headerLength, signedLength, signatureLength]

@[simp]
theorem signature_encode (header : Header) (key : SharedKey) (payload : Bytes) :
    ((encode header key payload).drop signedLength).take signatureLength =
      signature header.signedPart key payload := by
  rw [encode, List.append_assoc]
  simp

/-- In what `encode` builds there is nothing to find fault with but its size and its stamp. -/
theorem readHeader_encode_eq {header : Header} {key : SharedKey} {payload : Bytes} {here : Epoch}
    {limits : Limits} (small : (encode header key payload).length ≤ limits.maxBytes) :
    readHeader (encode header key payload) here limits =
      if limits.acceptsSkew header.epoch here then .ok header
      else .error (.clockSkew header.epoch here) := by
  have enough : headerLength ≤ (encode header key payload).length := by
    rw [length_encode]
    exact Nat.le_add_right _ _
  rw [readHeader, dif_neg (Nat.not_lt.mpr enough), if_neg (Nat.not_lt.mpr small)]
  simp only [encode, List.append_assoc]
  exact readFields_signedPart_append header _ here limits _

/-- From what `encode` builds its header is read, if it is within the limits. -/
theorem readHeader_encode {header : Header} {key : SharedKey} {payload : Bytes} {here : Epoch}
    {limits : Limits} (small : (encode header key payload).length ≤ limits.maxBytes)
    (close : limits.acceptsSkew header.epoch here = true) :
    readHeader (encode header key payload) here limits = .ok header := by
  rw [readHeader_encode_eq small, if_pos close]

/-- A packet determines its header and its payload, whatever the key is. -/
theorem encode_injective {header other : Header} {key otherKey : SharedKey}
    {payload otherPayload : Bytes}
    (same : encode header key payload = encode other otherKey otherPayload) :
    header = other ∧ payload = otherPayload := by
  -- Limits under which both headers are read.
  let limits : Limits :=
    ⟨(other.epoch.toInt - header.epoch.toInt).natAbs, (encode header key payload).length⟩
  have first : readHeader (encode header key payload) other.epoch limits = .ok header :=
    readHeader_encode (Nat.le_refl _) (Limits.acceptsSkew_iff.mpr (Nat.le_refl _))
  have second : readHeader (encode other otherKey otherPayload) other.epoch limits = .ok other := by
    refine readHeader_encode (Nat.le_of_eq (by rw [← same])) (Limits.acceptsSkew_iff.mpr ?_)
    rw [Int.sub_self]
    exact Nat.zero_le _
  rw [same] at first
  refine ⟨Except.ok.inj (first.symm.trans second), ?_⟩
  rw [← drop_encode header key payload, same, drop_encode]

/-- Verification accepts what `encode` builds with the same key, for an accepted sender and within
the limits, if a payload said to be IPv6 starts like IPv6; and it accepts nothing else. -/
theorem verify_eq_ok_iff {packet : Bytes} {key : SharedKey} {accepted : List Identity}
    {here : Epoch} {limits : Limits} {header : Header} {payload : Bytes} :
    verify packet key accepted here limits = .ok ⟨header, payload⟩ ↔
      packet = encode header key payload ∧ header.sender ∈ accepted ∧
        limits.acceptsSkew header.epoch here = true ∧ packet.length ≤ limits.maxBytes ∧
        (header.nextHeader = .ipv6 → versionOf? payload = some 6) := by
  constructor
  · intro verified
    simp only [verify] at verified
    split at verified
    · cases verified
    rename_i found read
    split at verified
    · cases verified
    rename_i known
    split at verified
    · cases verified
    rename_i signed
    split at verified
    · cases verified
    rename_i version
    cases verified
    rcases readHeader_eq_ok_iff.mp read with ⟨-, small, start, close⟩
    refine ⟨?_, not_not.mp known, close, small, fun said => ?_⟩
    · rw [encode, ← start, not_not.mp signed]
      exact eq_parts packet
    · exact not_not.mp fun other => version ⟨said, other⟩
  · rintro ⟨rfl, known, close, small, version⟩
    simp only [verify]
    rw [readHeader_encode small close]
    have started : ¬(header.nextHeader = .ipv6 ∧ versionOf? payload ≠ some 6) :=
      fun said => said.2 (version said.1)
    simp only [take_encode, drop_encode, signature_encode]
    rw [if_neg (not_not.mpr known), if_neg (not_not.mpr rfl), if_neg started]

theorem readHeader_of_verify {packet : Bytes} {key : SharedKey} {accepted : List Identity}
    {here : Epoch} {limits : Limits} {header : Header} {payload : Bytes}
    (verified : verify packet key accepted here limits = .ok ⟨header, payload⟩) :
    readHeader packet here limits = .ok header := by
  rcases verify_eq_ok_iff.mp verified with ⟨rfl, -, close, small, -⟩
  exact readHeader_encode small close

/-- A payload has version 6 if it is not empty and the high nibble of its first octet is 6. -/
theorem versionOf?_eq_six_iff {payload : Bytes} :
    versionOf? payload = some 6 ↔ ∃ first rest, payload = first :: rest ∧ Nibble.high first = 6 := by
  cases payload with
  | nil => simp [versionOf?]
  | cons first rest => simp [versionOf?]

/-- A packet is accepted with a header and a payload if and only if it is, octet by octet, what
`encode` builds of them with the same key, its sender is accepted, its stamp and its size are within
the limits, and a payload said to be IPv6 is not empty and starts with version 6. -/
theorem verify_accepts_exactly_encoded (packet : Bytes) (key : SharedKey)
    (accepted : List Identity) (here : Epoch) (limits : Limits) (header : Header)
    (payload : Bytes) :
    verify packet key accepted here limits = .ok ⟨header, payload⟩ ↔
      packet = encode header key payload ∧ header.sender ∈ accepted ∧
        (here.toInt - header.epoch.toInt).natAbs ≤ limits.maxClockSkew ∧
        packet.length ≤ limits.maxBytes ∧
        (header.nextHeader = .ipv6 →
          ∃ first rest, payload = first :: rest ∧ Nibble.high first = 6) := by
  rw [verify_eq_ok_iff, Limits.acceptsSkew_iff, versionOf?_eq_six_iff]

end Packet

end TunnelServer
