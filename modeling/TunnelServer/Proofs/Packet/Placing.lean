import TunnelServer.Packet.Encoding

/-!
# Packets in a buffer

A packet is built in a buffer part by part: the signed part, the signature and the payload, each where
the one before it ends.  Pieces written one behind the other come to the same as one piece, so the parts
leave no gap and do not overlap, whatever the buffer held before.  The room is looked at first, and a
buffer without enough of it is not touched.
-/

namespace TunnelServer.Packet

variable {header : Header} {key : SharedKey} {payload buffer : Bytes}

/-- What is written behind a piece joins it. -/
theorem overwrite_overwrite (first second : Bytes) {position : Nat}
    (inside : position ≤ buffer.length) :
    overwrite (overwrite buffer position first) (position + first.length) second =
      overwrite buffer position (first ++ second) := by
  have front : (buffer.take position ++ first).length = position + first.length := by
    rw [List.length_append, List.length_take_of_le inside]
  have kept : (overwrite buffer position first).take (position + first.length) =
      buffer.take position ++ first := by
    rw [overwrite, List.take_left' front]
  have behind : (overwrite buffer position first).drop (position + first.length) =
      buffer.drop (position + first.length) := by
    rw [overwrite, List.drop_left' front]
  calc overwrite (overwrite buffer position first) (position + first.length) second
      = buffer.take position ++ first ++ second ++
          (buffer.drop (position + first.length)).drop second.length := by
        rw [overwrite, kept, ← List.drop_drop, behind]
    _ = overwrite buffer position (first ++ second) := by
        rw [overwrite, List.append_assoc (buffer.take position), List.drop_drop,
          List.length_append, Nat.add_assoc]

theorem encodeInto_of_small (small : buffer.length < 44 + payload.length) :
    encodeInto header key payload buffer =
      (.error (.bufferTooSmall (44 + payload.length) buffer.length), buffer) := by
  rw [encodeInto]
  exact if_pos small

/-- Where there is room the three parts come to the same as the whole packet. -/
theorem encodeInto_of_room (room : 44 + payload.length ≤ buffer.length) :
    encodeInto header key payload buffer =
      (.ok (44 + payload.length), overwrite buffer 0 (encode header key payload)) := by
  have signed : signedLength = 0 + header.signedPart.length := by
    rw [Header.length_signedPart, Nat.zero_add]
  have both : headerLength =
      0 + (header.signedPart ++ signature header.signedPart key payload).length := by
    rw [List.length_append, Header.length_signedPart, length_signature]
    rfl
  have parts : overwrite (overwrite (overwrite buffer 0 header.signedPart) signedLength
        (signature header.signedPart key payload)) headerLength payload =
      overwrite buffer 0 (encode header key payload) := by
    rw [signed, overwrite_overwrite _ _ (Nat.zero_le _), both,
      overwrite_overwrite _ _ (Nat.zero_le _), encode]
  rw [encodeInto]
  simp only [parts]
  exact if_neg (Nat.not_lt.mpr room)

/-- Building a packet in a buffer fails if and only if the buffer is shorter than the packet, the error
tells how much is needed and how much there is, and not an octet of the buffer has changed.  Otherwise
the length of the packet is given, the buffer starts with the packet, and what stands behind it is what
stood there before. -/
theorem encodeInto_writes_packet_or_nothing (header : Header) (key : SharedKey)
    (payload buffer : Bytes) :
    let needed := 44 + payload.length
    let result := (encodeInto header key payload buffer).1
    let after := (encodeInto header key payload buffer).2
    ((∃ error, result = .error error) ↔ buffer.length < needed) ∧
      (∀ error, result = .error error →
        error = .bufferTooSmall needed buffer.length ∧ after = buffer) ∧
      (needed ≤ buffer.length →
        result = .ok needed ∧ after.take needed = encode header key payload ∧
          after.drop needed = buffer.drop needed ∧ after.length = buffer.length) := by
  intro needed result after
  rcases Nat.lt_or_ge buffer.length needed with small | room
  · have built : encodeInto header key payload buffer = _ := encodeInto_of_small small
    have failed : result = .error (.bufferTooSmall needed buffer.length) :=
      congrArg Prod.fst built
    have kept : after = buffer := congrArg Prod.snd built
    rw [failed, kept]
    refine ⟨iff_of_true ⟨_, rfl⟩ small, ?_, fun room => absurd small (Nat.not_lt.mpr room)⟩
    rintro _ ⟨⟩
    exact ⟨rfl, rfl⟩
  · have built : encodeInto header key payload buffer = _ := encodeInto_of_room room
    have long : (encode header key payload).length = needed := length_encode header key payload
    have done : result = .ok needed := congrArg Prod.fst built
    have written : after = encode header key payload ++ buffer.drop needed := by
      rw [← long, ← overwrite_zero]
      exact congrArg Prod.snd built
    rw [done, written]
    refine ⟨iff_of_false nofun (Nat.not_lt.mpr room), nofun, fun _ => ?_⟩
    refine ⟨rfl, List.take_left' long, List.drop_left' long, ?_⟩
    rw [List.length_append, List.length_drop, long]
    omega

end TunnelServer.Packet
