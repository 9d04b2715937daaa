import TunnelServer.Pipe.Fault
import TunnelServer.Pipe.Frame

/-!
# Reading frames from a stream

A stream hands out its octets in pieces of its own choosing and may fail between them.  A reader
fills a field of known length from as many pieces as it takes; octets taken before a failure are
gone.  `frames` reads a stream to its end and passes over failures that call for another try.
-/

namespace TunnelServer.Pipe

/-- What one read operation on a stream finds. -/
inductive Piece where
  /-- Octets; an empty piece looks like the end of the stream to the read that finds it. -/
  | octets (bytes : Bytes)
  /-- A failure that happens once. -/
  | fault (fault : Fault)

/-- What a stream holds; after the last piece every read finds its end. -/
abbrev Input := List Piece

namespace Input

/-- A bound on the reads that a stream has something for. -/
def size : Input → Nat
  | [] => 0
  | .fault _ :: rest => 1 + size rest
  | .octets bytes :: rest => 1 + bytes.length + size rest

/-- All octets up to the first end or failure; interruptions do not count. -/
def remaining : Input → Bytes
  | [] => []
  | .fault fault :: rest => if fault.kind = .interrupted then remaining rest else []
  | .octets bytes :: rest => if bytes = [] then [] else bytes ++ remaining rest

end Input

/-- What came of filling a field: the octets taken, the failure that stopped it, and the rest. -/
structure Fill where
  taken : Bytes
  fault : Option Fault
  rest : Input

/-- Takes a number of octets from a stream.  Interruptions are passed over; any other failure ends
the attempt, and so does the end of the stream. -/
def fill : (count : Nat) → Input → Fill
  | 0, input => ⟨[], none, input⟩
  | _ + 1, [] => ⟨[], some .endedEarly, []⟩
  | count + 1, .fault fault :: rest =>
    if fault.kind = .interrupted then fill (count + 1) rest else ⟨[], some fault, rest⟩
  | count + 1, .octets bytes :: rest =>
    if bytes = [] then ⟨[], some .endedEarly, rest⟩
    else if count + 1 < bytes.length then
      ⟨bytes.take (count + 1), none, .octets (bytes.drop (count + 1)) :: rest⟩
    else
      let more := fill (count + 1 - bytes.length) rest
      ⟨bytes ++ more.taken, more.fault, more.rest⟩

theorem size_rest_fill_le (count : Nat) (input : Input) :
    (fill count input).rest.size ≤ input.size := by
  fun_induction fill count input with
  | case1 => exact Nat.le_refl _
  | case2 => exact Nat.le_refl _
  | case3 count fault rest interrupted hypothesis =>
    simp only [Input.size]
    omega
  | case4 => simp [Input.size]
  | case5 => simp [Input.size]
  | case6 =>
    simp only [Input.size, List.length_drop]
    omega
  | case7 count bytes rest filled enough more hypothesis =>
    have same : more.rest.size ≤ Input.size rest := hypothesis
    simp only [Input.size]
    omega

/-- Taking at least one octet, or failing to, uses up some of a stream that has not ended. -/
theorem size_rest_fill_lt {count : Nat} {input : Input} (positive : 0 < count)
    (more : input ≠ []) : (fill count input).rest.size < input.size := by
  cases count with
  | zero => omega
  | succ count =>
    cases input with
    | nil => exact absurd rfl more
    | cons piece rest =>
      cases piece with
      | fault fault =>
        have bound := size_rest_fill_le (count + 1) rest
        simp only [fill]
        split <;> simp only [Input.size] <;> omega
      | octets bytes =>
        have bound := size_rest_fill_le (count + 1 - bytes.length) rest
        simp only [fill]
        split
        · simp only [Input.size]
          omega
        · split
          · simp only [Input.size, List.length_drop]
            omega
          · simp only [Input.size]
            omega

/-- What came of reading one frame: the datagram's length or a failure, the buffer afterwards, and
the rest of the stream. -/
structure FrameRead where
  result : Except Fault Nat
  buffer : Bytes
  rest : Input

/-- Reads the next frame of a stream into the front of a buffer.  Length 0 stands for the end of the
stream, which is also reported when the stream ends inside the length field. -/
def readFrame (buffer : Bytes) (input : Input) : FrameRead :=
  let field := fill lengthOctets input
  match field.fault with
  | some fault =>
    if fault.kind = .unexpectedEnd then ⟨.ok 0, buffer, field.rest⟩
    else ⟨.error fault, buffer, field.rest⟩
  | none =>
    match decodeLength field.taken buffer.length with
    | .error error => ⟨.error (.badFrame error), buffer, field.rest⟩
    | .ok length =>
      let body := fill length field.rest
      let buffer := Packet.overwrite buffer 0 body.taken
      match body.fault with
      | some fault => ⟨.error fault, buffer, body.rest⟩
      | none => ⟨.ok length, buffer, body.rest⟩

/-- A read that does not report the end uses up some of the stream. -/
theorem size_rest_readFrame_lt {buffer : Bytes} {input : Input}
    (goesOn : (readFrame buffer input).result ≠ .ok 0) :
    (readFrame buffer input).rest.size < input.size := by
  have more : input ≠ [] := by
    rintro rfl
    simp [readFrame, lengthOctets, fill, Fault.kind] at goesOn
  have field := size_rest_fill_lt (show 0 < lengthOctets by decide) more
  simp only [readFrame]
  split
  · split <;> exact field
  · split
    · exact field
    · rename_i length _
      have body := size_rest_fill_le length (fill lengthOctets input).rest
      split <;> exact Nat.lt_of_le_of_lt body field

/-- The octets that successive reads find in a stream, up to its end or the first failure that does
not call for another try. -/
def frames (buffer : Bytes) (input : Input) : List Bytes × Except Fault Unit :=
  let read := readFrame buffer input
  match found : read.result with
  | .ok length =>
    if ended : length = 0 then ([], .ok ())
    else
      have : read.rest.size < input.size :=
        size_rest_readFrame_lt fun zero => ended (Except.ok.inj (found.symm.trans zero))
      let later := frames read.buffer read.rest
      (read.buffer.take length :: later.1, later.2)
  | .error fault =>
    if fault.isRetryable then
      have : read.rest.size < input.size :=
        size_rest_readFrame_lt fun zero => nomatch found.symm.trans zero
      frames read.buffer read.rest
    else ([], .error fault)
termination_by input.size

end TunnelServer.Pipe
