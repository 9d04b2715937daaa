import TunnelServer.Pipe.Fault
import TunnelServer.Pipe.Frame

/-!
# Writing frames to a stream

A writer takes as many octets at a call as it likes.  A frame is offered again and again until all
of it is taken or nothing more is, and then the writer is flushed.
-/

namespace TunnelServer.Pipe

/-- A writer with limits, and what it has taken. -/
structure Output where
  /-- The most octets taken at one call. -/
  perCall : Option Nat
  /-- How many octets are still taken in all. -/
  room : Option Nat
  /-- The fault of every flush. -/
  flushFault : Option Fault
  /-- What each call took, the latest first. -/
  taken : List Bytes

namespace Output

/-- All octets taken so far. -/
def stream (output : Output) : Bytes := output.taken.reverse.flatten

/-- The octets that one call takes of those offered. -/
def accepts (output : Output) (offered : Bytes) : Bytes :=
  let withinCall := output.perCall.elim offered offered.take
  output.room.elim withinCall withinCall.take

/-- The writer after a call took some octets. -/
def take (output : Output) (octets : Bytes) : Output :=
  { output with
    room := output.room.map (· - octets.length)
    taken := octets :: output.taken }

/-- Offers octets until all are taken, or until nothing is. -/
def writeAll (output : Output) (octets : Bytes) : Except Fault Unit × Output :=
  if done : octets = [] then (.ok (), output)
  else
    let piece := output.accepts octets
    if stuck : piece = [] then (.error .nothingTaken, output)
    else
      have shorter : (octets.drop piece.length).length < octets.length := by
        have offered := List.length_pos_iff.mpr done
        have accepted := List.length_pos_iff.mpr stuck
        simp only [List.length_drop]
        omega
      writeAll (output.take piece) (octets.drop piece.length)
termination_by octets.length
decreasing_by exact shorter

/-- Writes the frame of a datagram.  One that has no frame leaves the stream as it is; a writer that
stops in the middle of a frame keeps the part it took. -/
def writeFrame (output : Output) (datagram : Bytes) : Except Fault Unit × Output :=
  match frame datagram with
  | .error error => (.error (.noFrame error), output)
  | .ok framed =>
    match output.writeAll framed with
    | (.error fault, output) => (.error fault, output)
    | (.ok (), output) => (output.flushFault.elim (.ok ()) .error, output)

end Output

end TunnelServer.Pipe
