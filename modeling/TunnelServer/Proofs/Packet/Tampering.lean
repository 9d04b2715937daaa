import TunnelServer.Proofs.Packet.Admission

/-!
# Packets that were tampered with

A signature is the digest of the signed part, the key and the payload, one after the other.  Two of the
three have a fixed length, so the octets that are hashed tell the parts apart, and together with the
signature field they are all of a packet.  If a packet is changed in any way and still accepted, then
its signature field was changed too, or two different strings of octets have the same digest.
-/

namespace TunnelServer.Packet

variable {packet other signedPart otherPart payload otherPayload : Bytes}
variable {key otherKey : SharedKey} {header : Header} {accepted : List Identity} {here : Epoch}
variable {limits : Limits} {verified : Verified}

/-- The octets whose digest is the signature. -/
def hashed (signedPart : Bytes) (key : SharedKey) (payload : Bytes) : Bytes :=
  signedPart ++ key.octets ++ payload

/-- The octets of a packet between its signed part and its payload. -/
def signatureField (packet : Bytes) : Bytes := (packet.drop signedLength).take signatureLength

theorem signatureField_encode (header : Header) (key : SharedKey) (payload : Bytes) :
    signatureField (encode header key payload) =
      Sha1.digest (hashed header.signedPart key payload) := by
  rw [signatureField, signature_encode]
  rfl

/-- What is hashed cannot be cut into a signed part, a key and a payload in another way. -/
theorem eq_of_hashed (one : signedPart.length = signedLength)
    (two : otherPart.length = signedLength)
    (same : hashed signedPart key payload = hashed otherPart otherKey otherPayload) :
    signedPart = otherPart ∧ key = otherKey ∧ payload = otherPayload := by
  simp only [hashed, List.append_assoc] at same
  rcases List.append_inj same (one.trans two.symm) with ⟨part, rest⟩
  rcases List.append_inj rest (key.length_octets.trans otherKey.length_octets.symm) with
    ⟨octets, left⟩
  refine ⟨part, ?_, left⟩
  cases key
  cases otherKey
  simpa using octets

/-- The hashed octets and the signature field leave nothing of a packet out. -/
theorem eq_of_fields (part : packet.take signedLength = other.take signedLength)
    (field : signatureField packet = signatureField other)
    (rest : packet.drop headerLength = other.drop headerLength) : packet = other := by
  calc
    packet = packet.take signedLength ++ signatureField packet ++ packet.drop headerLength :=
      eq_parts packet
    _ = other.take signedLength ++ signatureField other ++ other.drop headerLength := by
      rw [part, field, rest]
    _ = other := (eq_parts other).symm

/-- An accepted packet carries the digest of what is hashed for it. -/
theorem signatureField_of_verify (found : verify packet key accepted here limits = .ok verified) :
    signatureField packet =
      Sha1.digest (hashed (packet.take signedLength) key (packet.drop headerLength)) := by
  rcases verified with ⟨header, payload⟩
  rcases verify_eq_ok_iff.mp found with ⟨rfl, -⟩
  rw [signatureField_encode, take_encode, drop_encode]

theorem signedLength_le_of_verify (found : verify packet key accepted here limits = .ok verified) :
    signedLength ≤ packet.length := by
  rcases verified with ⟨header, payload⟩
  rcases verify_eq_ok_iff.mp found with ⟨rfl, -⟩
  simp only [length_encode, signedLength, headerLength]
  omega

/-- Any packet but the original that is accepted under the same key has another signature field, or
else what is hashed for it is another string with the same digest. -/
theorem forged_of_verify (different : other ≠ encode header key payload)
    (found : verify other key accepted here limits = .ok verified) :
    signatureField other ≠ signatureField (encode header key payload) ∨
      hashed (other.take signedLength) key (other.drop headerLength) ≠
          hashed header.signedPart key payload ∧
        Sha1.digest (hashed (other.take signedLength) key (other.drop headerLength)) =
          Sha1.digest (hashed header.signedPart key payload) := by
  by_cases field : signatureField other = signatureField (encode header key payload)
  · right
    constructor
    · intro same
      have long : (other.take signedLength).length = signedLength :=
        List.length_take_of_le (signedLength_le_of_verify found)
      rcases eq_of_hashed long header.length_signedPart same with ⟨part, -, rest⟩
      apply different
      apply eq_of_fields _ field
      · rw [rest, drop_encode]
      · rw [part, take_encode]
    · rw [← signatureField_of_verify found, field, signatureField_encode]
  · exact .inl field

/-- A packet that differs from the original in its signature field alone is refused. -/
theorem refused_of_other_signature (different : other ≠ encode header key payload)
    (part : other.take signedLength = header.signedPart)
    (rest : other.drop headerLength = payload) (accepted : List Identity) (here : Epoch)
    (limits : Limits) : ∃ error, verify other key accepted here limits = .error error := by
  cases found : verify other key accepted here limits with
  | error error => exact ⟨error, rfl⟩
  | ok verified =>
      have field := signatureField_of_verify found
      rw [part, rest] at field
      refine absurd (eq_of_fields ?_ ?_ ?_) different
      · rw [part, take_encode]
      · rw [field, signatureField_encode]
      · rw [rest, drop_encode]

/-- Let a packet be changed in any way.  If it is still accepted under the same key, whatever senders,
clock and limits it is held against, then its signature field was changed, or two different strings
of octets have been found with the same digest.  If nothing but the signature field was changed, it is
refused.  What is hashed is never the same for two different signed parts, keys or payloads. -/
theorem accepted_change_needs_collision {header : Header} {key : SharedKey} {payload other : Bytes}
    (different : other ≠ encode header key payload) :
    let packet := encode header key payload
    (∀ accepted here limits verified, verify other key accepted here limits = .ok verified →
      signatureField other ≠ signatureField packet ∨
        hashed (other.take signedLength) key (other.drop headerLength) ≠
            hashed (packet.take signedLength) key payload ∧
          Sha1.digest (hashed (other.take signedLength) key (other.drop headerLength)) =
            Sha1.digest (hashed (packet.take signedLength) key payload)) ∧
      (other.take signedLength = packet.take signedLength →
        other.drop headerLength = packet.drop headerLength →
          ∀ accepted here limits, ∃ error,
            verify other key accepted here limits = .error error) ∧
      ∀ (onePart otherPart : Bytes) (oneKey otherKey : SharedKey) (one another : Bytes),
        onePart.length = signedLength → otherPart.length = signedLength →
          hashed onePart oneKey one = hashed otherPart otherKey another →
            onePart = otherPart ∧ oneKey = otherKey ∧ one = another := by
  intro packet
  simp only [packet, take_encode, drop_encode]
  refine ⟨?_, ?_, ?_⟩
  · intro accepted here limits verified found
    exact forged_of_verify different found
  · intro part rest accepted here limits
    exact refused_of_other_signature different part rest accepted here limits
  · intro onePart otherPart oneKey otherKey one another long longToo same
    exact eq_of_hashed long longToo same

/-- The packet of one datagram in place of that of another: it is accepted, and has a signature of its
own unless it shows a collision. -/
theorem accepted_change_needs_collision_small :
    let key := SharedKey.ofSecret "secret"
    let header := Header.forward Ipv6Address.unspecified 1700000000
    let packet := encode header key [0x60]
    let other := encode header key [0x60, 0x00]
    other ≠ packet ∧
      verify other key [Ipv6Address.unspecified] 1700000000 Limits.standard =
        .ok ⟨header, [0x60, 0x00]⟩ ∧
      (signatureField other ≠ signatureField packet ∨
        hashed (other.take signedLength) key (other.drop headerLength) ≠
            hashed (packet.take signedLength) key [0x60] ∧
          Sha1.digest (hashed (other.take signedLength) key (other.drop headerLength)) =
            Sha1.digest (hashed (packet.take signedLength) key [0x60])) := by
  intro key header packet other
  have different : other ≠ packet := by
    intro same
    cases (encode_injective same).2
  have small : other.length ≤ Limits.standard.maxBytes := by
    rw [length_encode]
    decide
  have found : verify other key [Ipv6Address.unspecified] 1700000000 Limits.standard =
      .ok ⟨header, [0x60, 0x00]⟩ :=
    verify_eq_ok_iff.mpr ⟨rfl, List.mem_singleton_self _, by decide, small, fun _ => by decide⟩
  exact ⟨different, found,
    (accepted_change_needs_collision different).1 _ _ _ _ found⟩

end TunnelServer.Packet
