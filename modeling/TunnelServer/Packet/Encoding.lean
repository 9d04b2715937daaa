import TunnelServer.Packet.Signature

/-!
# Building packets

A packet is the signed part of its header, the signature and the payload, one after the other.
-/

namespace TunnelServer

/-- Why something could not be written. -/
inductive EncodeError where
  | bufferTooSmall (needed available : Nat)
  | lengthOverflow (length : Nat)
  deriving DecidableEq

namespace EncodeError

def message : EncodeError → String
  | bufferTooSmall needed available => s!"buffer too small: need {needed}, have {available}"
  | lengthOverflow length => s!"length overflow: {length}"

end EncodeError

namespace Packet

/-- The packet with a header and a payload, signed with a key. -/
def encode (header : Header) (key : SharedKey) (payload : Bytes) : Bytes :=
  header.signedPart ++ signature header.signedPart key payload ++ payload

@[simp]
theorem length_encode (header : Header) (key : SharedKey) (payload : Bytes) :
    (encode header key payload).length = headerLength + payload.length := by
  simp only [encode, List.length_append, Header.length_signedPart, length_signature, headerLength,
    signedLength, signatureLength]

/-- Overwrites the octets of a buffer from a position on, where there is room for them. -/
def overwrite (buffer : Bytes) (position : Nat) (octets : Bytes) : Bytes :=
  buffer.take position ++ octets ++ buffer.drop (position + octets.length)

theorem overwrite_zero (buffer octets : Bytes) :
    overwrite buffer 0 octets = octets ++ buffer.drop octets.length := by
  rw [overwrite, List.take_zero, List.nil_append, Nat.zero_add]

/-- Builds a packet at the start of a buffer.  A buffer without room for all of it stays as it is;
otherwise the three parts are written one after the other and what follows them is kept. -/
def encodeInto (header : Header) (key : SharedKey) (payload buffer : Bytes) :
    Except EncodeError Nat × Bytes :=
  let needed := headerLength + payload.length
  if buffer.length < needed then (.error (.bufferTooSmall needed buffer.length), buffer)
  else
    let signedPart := header.signedPart
    let written := overwrite buffer 0 signedPart
    let written := overwrite written signedLength (signature signedPart key payload)
    (.ok needed, overwrite written headerLength payload)

end Packet

end TunnelServer
