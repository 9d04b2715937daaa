import TunnelServer.Datagram
import TunnelServer.Packet.Encoding

/-!
# Frames

On a byte stream each datagram follows its length, which is written in two octets.  No datagram is
shorter than its fixed header, so a smaller length shows that the stream is out of step.
-/

namespace TunnelServer.Pipe

/-- Octets of a length field. -/
def lengthOctets : Nat := 2

/-- The largest length that the field holds. -/
def maxLength : Nat := 65535

/-- The length field of a frame. -/
def encodeLength (length : Nat) : Except EncodeError Bytes :=
  if length ≤ maxLength then .ok (BigEndian.encode lengthOctets length)
  else .error (.lengthOverflow length)

/-- The length that a field holds, if a datagram of that length exists and fits the room. -/
def decodeLength (field : Bytes) (room : Nat) : Except FramingError Nat :=
  let length := BigEndian.decode field
  if length < Datagram.headerLength ∨ room < length then .error (.invalidPipeLength length)
  else .ok length

/-- The frame of a datagram. -/
def frame (datagram : Bytes) : Except EncodeError Bytes :=
  (encodeLength datagram.length).map (· ++ datagram)

/-- Puts the frame of a datagram after what is there already, which otherwise stays as it is. -/
def appendFrame (datagram out : Bytes) : Except EncodeError Unit × Bytes :=
  match frame datagram with
  | .ok framed => (.ok (), out ++ framed)
  | .error error => (.error error, out)

end TunnelServer.Pipe
