import TunnelServer.Sha1
import TunnelServer.Packet.Header

/-!
# Keys and signatures

The two ends of a tunnel share a secret.  Its digest is the key; the digest of a header, the key and
the payload is the signature of a packet.  The key itself is never sent.
-/

namespace TunnelServer.Packet

/-- The digest of a shared secret. -/
structure SharedKey where
  octets : Bytes
  length_octets : octets.length = 20
  deriving DecidableEq

namespace SharedKey

/-- The key of a secret, which is hashed in its UTF-8 form. -/
def ofSecret (secret : String) : SharedKey :=
  ⟨Sha1.digest secret.toUTF8.data.toList, Sha1.length_digest _⟩

/-- What diagnostics show of a key. -/
def describe (_ : SharedKey) : String := "SharedKey(..)"

end SharedKey

/-- The signature over the signed part of a header, a key and a payload. -/
def signature (signedPart : Bytes) (key : SharedKey) (payload : Bytes) : Bytes :=
  Sha1.digest (signedPart ++ key.octets ++ payload)

@[simp]
theorem length_signature (signedPart : Bytes) (key : SharedKey) (payload : Bytes) :
    (signature signedPart key payload).length = signatureLength :=
  Sha1.length_digest _

end TunnelServer.Packet
