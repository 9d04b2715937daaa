import TunnelServer.Address.Ipv6

/-!
# IPv6 datagrams

What the server reads in a datagram: the version nibble, the length field and the destination.  The
rest of a datagram passes through untouched.
-/

namespace TunnelServer

/-- Why octets are no row of datagrams, or no frame of a pipe. -/
inductive FramingError where
  | tooShort (actual : Nat)
  | notIpv6 (version : UInt8)
  | truncated (declared available : Nat)
  | invalidPipeLength (length : Nat)
  deriving DecidableEq

namespace FramingError

def message : FramingError → String
  | tooShort actual => s!"datagram too short: {actual} bytes, need at least 40"
  | notIpv6 version => "not an IPv6 datagram: version " ++ toString version.toNat
  | truncated declared available => s!"truncated datagram: declared {declared} bytes, have {available}"
  | invalidPipeLength length => s!"invalid pipe frame length: {length}"

end FramingError

namespace Datagram

/-- Octets of the fixed IPv6 header. -/
def headerLength : Nat := 40

/-- The octets after the fixed header, as the length field declares them. -/
def payloadLength? (bytes : Bytes) : Option Nat :=
  let field := (bytes.drop 4).take 2
  if field.length = 2 then some (BigEndian.decode field) else none

/-- The destination address. -/
def destination? (bytes : Bytes) : Option Identity := Ipv6Address.ofBytes? (bytes.drop 24)

/-- The length of the datagram that starts here, by its own declaration. -/
def measure (bytes : Bytes) : Except FramingError Nat :=
  if bytes.length < headerLength then .error (.tooShort bytes.length)
  else
    let version := Nibble.high (bytes.headD 0)
    if version ≠ 6 then .error (.notIpv6 version)
    else .ok (headerLength + (payloadLength? bytes).getD 0)

theorem headerLength_le_of_measure {bytes : Bytes} {length : Nat}
    (measured : measure bytes = .ok length) :
    headerLength ≤ length ∧ headerLength ≤ bytes.length := by
  unfold measure at measured
  split at measured
  · simp at measured
  · dsimp only at measured
    split at measured
    · simp at measured
    · simp only [Except.ok.injEq] at measured
      omega

/-- Whether the octets are one datagram, whole and with nothing after it. -/
def IsWhole (bytes : Bytes) : Prop := measure bytes = .ok bytes.length

/-- Cuts octets into the datagrams that stand back to back in them.  Every datagram has to be there
in full, and there has to be at least one. -/
def split (bytes : Bytes) : Except FramingError (List Bytes) :=
  match measured : measure bytes with
  | .error error => .error error
  | .ok length =>
    if bytes.length < length then .error (.truncated length bytes.length)
    else if bytes.drop length = [] then .ok [bytes.take length]
    else
      have shorter : (bytes.drop length).length < bytes.length := by
        have bounds := headerLength_le_of_measure measured
        simp only [headerLength, List.length_drop] at bounds ⊢
        omega
      match split (bytes.drop length) with
      | .error error => .error error
      | .ok datagrams => .ok (bytes.take length :: datagrams)
termination_by bytes.length
decreasing_by exact shorter

end Datagram

end TunnelServer
