import TunnelServer.Address.Ipv6
import TunnelServer.Packet.Epoch

/-!
# Packet headers

A packet starts with 24 octets that say how it is identified and signed, what it asks for, what its
payload is, when and by whom it was sent.  A signature of 20 octets follows, then the payload.
-/

namespace TunnelServer.Packet

/-- How a sender can be identified; this server uses integers only. -/
inductive IdentityType where
  | none | integer | string
  deriving DecidableEq

/-- How a packet can be hashed; this server uses SHA-1 only. -/
inductive HashAlgorithm where
  | none | md5 | sha1 | umac
  deriving DecidableEq

/-- How a packet can be authenticated; this server uses shared secrets only. -/
inductive Authentication where
  | none | sharedSecret | pgp
  deriving DecidableEq

/-- What a packet asks for. -/
inductive Opcode where
  | noop | forward | echoRequest | echoRequestForward | echoResponse | motd | queryRequest
  | queryResponse
  deriving DecidableEq

/-- What the payload of a packet is. -/
inductive NextHeader where
  | ipv6 | nothing
  deriving DecidableEq

namespace IdentityType

def all : List IdentityType := [none, integer, string]

def code : IdentityType → UInt8
  | none => 0
  | integer => 1
  | string => 2

end IdentityType

namespace HashAlgorithm

def all : List HashAlgorithm := [none, md5, sha1, umac]

def code : HashAlgorithm → UInt8
  | none => 0
  | md5 => 1
  | sha1 => 2
  | umac => 3

end HashAlgorithm

namespace Authentication

def all : List Authentication := [none, sharedSecret, pgp]

def code : Authentication → UInt8
  | none => 0
  | sharedSecret => 1
  | pgp => 2

end Authentication

namespace Opcode

def code : Opcode → UInt8
  | noop => 0
  | forward => 1
  | echoRequest => 2
  | echoRequestForward => 3
  | echoResponse => 4
  | motd => 5
  | queryRequest => 6
  | queryResponse => 7

def ofCode? : UInt8 → Option Opcode
  | 0 => some noop
  | 1 => some forward
  | 2 => some echoRequest
  | 3 => some echoRequestForward
  | 4 => some echoResponse
  | 5 => some motd
  | 6 => some queryRequest
  | 7 => some queryResponse
  | _ => Option.none

/-- Whether a tunnel acts on packets with this opcode; all others are counted as invalid. -/
def isActionable : Opcode → Bool
  | noop | forward => true
  | _ => false

theorem ofCode?_eq_some_iff {code : UInt8} {opcode : Opcode} :
    ofCode? code = some opcode ↔ code = opcode.code := by
  constructor
  · intro found
    simp only [ofCode?] at found
    split at found <;> cases found <;> rfl
  · rintro rfl
    cases opcode <;> rfl

end Opcode

namespace NextHeader

/-- The protocol number of a payload. -/
def code : NextHeader → UInt8
  | ipv6 => 41
  | nothing => 59

/-- The kind of payload with a protocol number. -/
def ofCode? : UInt8 → Option NextHeader
  | 41 => some ipv6
  | 59 => some nothing
  | _ => Option.none

theorem ofCode?_eq_some_iff {code : UInt8} {nextHeader : NextHeader} :
    ofCode? code = some nextHeader ↔ code = nextHeader.code := by
  constructor
  · intro found
    simp only [ofCode?] at found
    split at found <;> cases found <;> rfl
  · rintro rfl
    cases nextHeader <;> rfl

end NextHeader

def identityLength : Nat := 16

def signatureLength : Nat := 20

/-- Octets in front of the signature; they are what is signed, with the key and the payload. -/
def signedLength : Nat := 24

/-- Octets in front of the payload. -/
def headerLength : Nat := 44

/-- The first octet: an identity of `2 ^ 4` octets that is an integer. -/
def identityOctet : UInt8 := Nibble.pack 4 IdentityType.integer.code

/-- The second octet: a signature of `5 * 4` octets made with SHA-1. -/
def signatureOctet : UInt8 := Nibble.pack 5 HashAlgorithm.sha1.code

/-- What a header says, apart from the fixed octets and the signature. -/
structure Header where
  opcode : Opcode
  nextHeader : NextHeader
  epoch : Epoch
  sender : Identity
  deriving DecidableEq

namespace Header

/-- The header of a forwarded IPv6 datagram. -/
def forward (sender : Identity) (epoch : Epoch) : Header where
  opcode := .forward
  nextHeader := .ipv6
  epoch := epoch
  sender := sender

/-- The header of a heartbeat, which has no payload. -/
def heartbeat (sender : Identity) (epoch : Epoch) : Header where
  opcode := .noop
  nextHeader := .nothing
  epoch := epoch
  sender := sender

/-- The octets of a header in front of the signature. -/
def signedPart (header : Header) : Bytes :=
  [identityOctet, signatureOctet,
    Nibble.pack Authentication.sharedSecret.code header.opcode.code, header.nextHeader.code] ++
    header.epoch.octets ++ header.sender.octets

@[simp]
theorem length_signedPart (header : Header) : header.signedPart.length = signedLength := by
  simp [signedPart, signedLength, header.sender.length_octets]

end Header

end TunnelServer.Packet
