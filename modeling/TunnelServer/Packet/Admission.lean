import TunnelServer.Packet.Encoding
import TunnelServer.Packet.Limits
import TunnelServer.Address.Ipv6.Text

/-!
# Admitting packets

A packet is first judged by its header alone, which needs no key and tells whose tunnel it claims to
belong to.  With that tunnel's key it is then verified: the header again, the sender, the signature,
and that a payload said to be IPv6 starts like IPv6.
-/

namespace TunnelServer.Packet

/-- Why a packet was not admitted. -/
inductive DecodeError where
  | tooSmall (actual required : Nat)
  | tooLarge (actual limit : Nat)
  | invalidIdentityOctet (found : UInt8)
  | invalidSignatureOctet (found : UInt8)
  | unsupportedAuthentication (found : UInt8)
  | unknownOpcode (found : UInt8)
  | unknownNextHeader (found : UInt8)
  | clockSkew (sender here : Epoch)
  | senderMismatch (sender : Identity)
  | signatureMismatch
  | payloadNotIpv6 (version : Option UInt8)
  deriving DecidableEq

namespace DecodeError

/-- Two capital hexadecimal digits. -/
def hexOctet (octet : UInt8) : String :=
  let digits := (Nat.toDigits 16 octet.toNat).map Char.toUpper
  String.ofList (List.replicate (2 - digits.length) '0' ++ digits)

def message : DecodeError → String
  | tooSmall actual required => s!"packet too small: {actual} bytes, need at least {required}"
  | tooLarge actual limit => s!"packet too large: {actual} > {limit} bytes"
  | invalidIdentityOctet found => "invalid identity byte: 0x" ++ hexOctet found
  | invalidSignatureOctet found => "invalid signature byte: 0x" ++ hexOctet found
  | unsupportedAuthentication found => "unsupported auth type: " ++ toString found.toNat
  | unknownOpcode found => "unknown opcode: " ++ toString found.toNat
  | unknownNextHeader found => "unknown next header: " ++ toString found.toNat
  | clockSkew sender here =>
    "clock skew: sender epoch " ++ toString sender.toInt ++ " is " ++
      toString (here.toInt - sender.toInt) ++ "s away from " ++ toString here.toInt
  | senderMismatch sender => "unexpected sender identity " ++ sender.toText
  | signatureMismatch => "signature mismatch"
  | payloadNotIpv6 (some version) => "payload is not IPv6: version " ++ toString version.toNat
  | payloadNotIpv6 none => "payload is not IPv6: empty"

end DecodeError

/-- Reads the fields of a header from a packet that is long enough to hold one. -/
def readFields (packet : Bytes) (here : Epoch) (limits : Limits)
    (enough : headerLength ≤ packet.length) : Except DecodeError Header :=
  let first := packet.getD 0 0
  let second := packet.getD 1 0
  let third := packet.getD 2 0
  let fourth := packet.getD 3 0
  if first ≠ identityOctet then .error (.invalidIdentityOctet first)
  else if second ≠ signatureOctet then .error (.invalidSignatureOctet second)
  else if Nibble.high third ≠ Authentication.sharedSecret.code then
    .error (.unsupportedAuthentication (Nibble.high third))
  else
    match Opcode.ofCode? (Nibble.low third) with
    | none => .error (.unknownOpcode (Nibble.low third))
    | some opcode =>
      match NextHeader.ofCode? fourth with
      | none => .error (.unknownNextHeader fourth)
      | some nextHeader =>
        let epoch := Epoch.ofOctets ((packet.drop 4).take 4)
        if limits.acceptsSkew epoch here then
          .ok {
            opcode := opcode
            nextHeader := nextHeader
            epoch := epoch
            sender := ⟨(packet.drop 8).take 16, by
              simp only [List.length_take, List.length_drop, headerLength] at enough ⊢; omega⟩ }
        else .error (.clockSkew epoch here)

/-- The header of a packet, by the checks that need no key. -/
def readHeader (packet : Bytes) (here : Epoch) (limits : Limits) : Except DecodeError Header :=
  if small : packet.length < headerLength then .error (.tooSmall packet.length headerLength)
  else if limits.maxBytes < packet.length then .error (.tooLarge packet.length limits.maxBytes)
  else readFields packet here limits (Nat.le_of_not_lt small)

/-- Whose packet it claims to be, if its header is in order. -/
def claimedSender? (packet : Bytes) (here : Epoch) : Option Identity :=
  match readHeader packet here Limits.standard with
  | .ok header => some header.sender
  | .error _ => none

/-- The IP version at the start of a payload. -/
def versionOf? (payload : Bytes) : Option UInt8 := payload.head?.map Nibble.high

/-- A packet that was found to be in order. -/
structure Verified where
  header : Header
  payload : Bytes
  deriving DecidableEq

/-- Verifies a packet with the key of one tunnel and the senders that may use it. -/
def verify (packet : Bytes) (key : SharedKey) (accepted : List Identity) (here : Epoch)
    (limits : Limits) : Except DecodeError Verified :=
  match readHeader packet here limits with
  | .error error => .error error
  | .ok header =>
    let payload := packet.drop headerLength
    if header.sender ∉ accepted then .error (.senderMismatch header.sender)
    else if signature (packet.take signedLength) key payload ≠
        (packet.drop signedLength).take signatureLength then
      .error .signatureMismatch
    else if header.nextHeader = .ipv6 ∧ versionOf? payload ≠ some 6 then
      .error (.payloadNotIpv6 (versionOf? payload))
    else .ok { header := header, payload := payload }

end TunnelServer.Packet
