import TunnelServer.Proofs.LocalStream
import TunnelServer.Proofs.Pipe.Writing

/-!
# Datagrams through a stream

What is written to a stream frame by frame is read from it again, read by read into one buffer, however
the stream is cut into pieces on the way and wherever reading is interrupted.  Each read puts a datagram
at the front of the buffer and leaves what is behind it, and after the last datagram every read finds
the end.  Of any stream that does not fail, the reads depend on its octets and on the room in the buffer
alone.
-/

namespace TunnelServer.Pipe

variable {input other : Input} {buffer otherBuffer : Bytes} {datagrams : List Bytes}
variable {output : Output} {count length : Nat}

/-! ## Writing -/

namespace Output

/-- A writer that takes all that it is offered, if not always at one call. -/
structure TakesAll (output : Output) : Prop where
  perCall : output.perCall ≠ some 0
  room : output.room = none
  flush : output.flushFault = none

theorem TakesAll.writeFrame (takes : output.TakesAll) {datagram : Bytes}
    (fits : Fits datagram) :
    ∃ after, output.writeFrame datagram = (.ok (), after) ∧ after.TakesAll ∧
      after.stream = output.stream ++ framed datagram := by
  rcases writeFrame_eq takes.perCall datagram with ⟨took, answered⟩
  refine ⟨(output.writeFrame datagram).2, ?_, ⟨?_, ?_, ?_⟩, ?_⟩
  · refine Prod.ext ?_ rfl
    rw [answered, answer, if_neg (Nat.not_lt.mpr fits.2), takes.room, takes.flush]
    rfl
  · rw [took.perCall]
    exact takes.perCall
  · rw [took.room, takes.room]
    rfl
  · rw [took.flushFault]
    exact takes.flush
  · rw [took.stream, fitting, takes.room, framesOf_of_small fits.2]
    rfl

theorem TakesAll.writeEach (takes : output.TakesAll)
    (fits : ∀ datagram ∈ datagrams, Fits datagram) :
    (output.writeEach datagrams).1 = List.replicate datagrams.length (.ok ()) ∧
      (output.writeEach datagrams).2.stream =
        output.stream ++ (datagrams.map framed).flatten := by
  induction datagrams generalizing output with
  | nil => simp [Output.writeEach]
  | cons datagram rest hypothesis =>
      rcases takes.writeFrame (fits datagram List.mem_cons_self) with
        ⟨after, written, takesMore, stream⟩
      have later := hypothesis takesMore fun datagram among =>
        fits datagram (List.mem_cons_of_mem _ among)
      simp only [Output.writeEach, written, later, stream, List.length_cons, List.replicate_succ,
        List.map_cons, List.flatten_cons, List.append_assoc, and_self]

end Output

/-! ## Reading -/

/-- What successive reads into one buffer give: the result of each, and the buffer after it. -/
def reads : (count : Nat) → (buffer : Bytes) → Input → List (Except Fault Nat × Bytes)
  | 0, _, _ => []
  | count + 1, buffer, input =>
    let read := readFrame buffer input
    (read.result, read.buffer) :: reads count read.buffer read.rest

/-- A buffer with a datagram at its front, and behind it what was there before. -/
def putFront (buffer datagram : Bytes) : Bytes := datagram ++ buffer.drop datagram.length

/-- What successive reads into one buffer give if each of them finds a datagram. -/
def readBack : List Bytes → (buffer : Bytes) → List (Except Fault Nat × Bytes)
  | [], _ => []
  | datagram :: rest, buffer =>
    (.ok datagram.length, putFront buffer datagram) :: readBack rest (putFront buffer datagram)

/-- The result of a read, with the octets at the front of the buffer that it speaks of. -/
def seen (read : Except Fault Nat × Bytes) : Except Fault (Nat × Bytes) :=
  read.1.map fun length => (length, read.2.take length)

theorem length_putFront {datagram : Bytes} (room : datagram.length ≤ buffer.length) :
    (putFront buffer datagram).length = buffer.length := by
  simp only [putFront, List.length_append, List.length_drop]
  omega

/-- Where the stream has ended, every read says so and leaves the buffer alone. -/
theorem reads_of_end (nothing : input.remaining = []) (ended : input.stop = (.endedEarly, []))
    (count : Nat) (buffer : Bytes) :
    reads count buffer input = List.replicate count (.ok 0, buffer) := by
  induction count generalizing input with
  | zero => rfl
  | succ count hypothesis =>
      have short : input.remaining.length < lengthOctets := by
        rw [nothing]
        decide
      have read : readFrame buffer input = ⟨.ok 0, buffer, []⟩ := by
        simp only [readFrame, fill_of_lt short, ended]
        rfl
      have later : reads count buffer [] = _ := hypothesis rfl rfl
      simp only [reads, read, later, List.replicate_succ]

/-- Frames that are there in full are read one after the other, and then the end of the stream. -/
theorem reads_framed (fits : ∀ datagram ∈ datagrams, Fits datagram)
    (room : ∀ datagram ∈ datagrams, datagram.length ≤ buffer.length)
    (there : input.remaining = (datagrams.map framed).flatten)
    (ended : input.stop = (.endedEarly, [])) (more : Nat) :
    reads (datagrams.length + more) buffer input =
      readBack datagrams buffer ++
        List.replicate more (.ok 0, datagrams.foldl putFront buffer) := by
  induction datagrams generalizing buffer input with
  | nil =>
      rw [List.length_nil, Nat.zero_add]
      exact reads_of_end there ended more buffer
  | cons datagram rest hypothesis =>
      have roomForFirst := room datagram List.mem_cons_self
      rw [List.map_cons, List.flatten_cons] at there
      rcases readFrame_framed (fits datagram List.mem_cons_self) roomForFirst there with
        ⟨result, filled, left, stops⟩
      have filled : (readFrame buffer input).buffer = putFront buffer datagram := filled
      have fitsLater := fun other among => fits other (List.mem_cons_of_mem datagram among)
      have roomLater : ∀ other ∈ rest, other.length ≤ (putFront buffer datagram).length := by
        intro other among
        rw [length_putFront roomForFirst]
        exact room other (List.mem_cons_of_mem datagram among)
      have later := hypothesis fitsLater roomLater left (stops.trans ended)
      rw [List.length_cons, Nat.add_right_comm]
      simp only [reads, readBack, result, filled, later, List.foldl_cons, List.cons_append]

/-! ## What the reads depend on -/

/-- Up to the first stop the two streams hold the same octets, and they stop and go on alike. -/
structure Alike (input other : Input) : Prop where
  remaining : input.remaining = other.remaining
  stop : input.stop = other.stop

namespace Alike

theorem of_flows (flows : Flows input) (otherFlows : Flows other)
    (same : input.octets = other.octets) : Alike input other := by
  rcases flows.to_end with ⟨remains, stops⟩
  rcases otherFlows.to_end with ⟨otherRemains, otherStops⟩
  constructor
  · rw [remains, otherRemains, same]
  · rw [stops, otherStops]

theorem fill (alike : Alike input other) (count : Nat) :
    (fill count input).taken = (Pipe.fill count other).taken ∧
      (Pipe.fill count input).fault = (Pipe.fill count other).fault ∧
      Alike (Pipe.fill count input).rest (Pipe.fill count other).rest := by
  by_cases enough : count ≤ input.remaining.length
  · have enoughToo : count ≤ other.remaining.length := by
      rw [← alike.remaining]
      exact enough
    rcases fill_of_le enough with ⟨taken, fault, left, stops⟩
    rcases fill_of_le enoughToo with ⟨otherTaken, otherFault, otherLeft, otherStops⟩
    refine ⟨?_, ?_, ?_, ?_⟩
    · rw [taken, otherTaken, alike.remaining]
    · rw [fault, otherFault]
    · rw [left, otherLeft, alike.remaining]
    · rw [stops, otherStops, alike.stop]
  · have short := Nat.not_le.mp enough
    have shortToo : other.remaining.length < count := by
      rw [← alike.remaining]
      exact short
    rw [fill_of_lt short, fill_of_lt shortToo, alike.remaining, alike.stop]
    exact ⟨rfl, rfl, rfl, rfl⟩

theorem readFrame (alike : Alike input other) (buffer : Bytes) :
    (readFrame buffer input).result = (Pipe.readFrame buffer other).result ∧
      (Pipe.readFrame buffer input).buffer = (Pipe.readFrame buffer other).buffer ∧
      Alike (Pipe.readFrame buffer input).rest (Pipe.readFrame buffer other).rest := by
  rcases alike.fill lengthOctets with ⟨taken, fault, rest⟩
  simp only [Pipe.readFrame, taken, fault]
  split
  · split
    · exact ⟨rfl, rfl, rest⟩
    · exact ⟨rfl, rfl, rest⟩
  · split
    · exact ⟨rfl, rfl, rest⟩
    · rename_i length _
      rcases rest.fill length with ⟨bodyTaken, bodyFault, after⟩
      simp only [bodyTaken, bodyFault]
      split
      · exact ⟨rfl, rfl, after⟩
      · exact ⟨rfl, rfl, after⟩

theorem reads (alike : Alike input other) (count : Nat) (buffer : Bytes) :
    reads count buffer input = Pipe.reads count buffer other := by
  induction count generalizing input other buffer with
  | zero => rfl
  | succ count hypothesis =>
      rcases alike.readFrame buffer with ⟨result, filled, rest⟩
      simp only [Pipe.reads, result, filled, hypothesis rest]

end Alike

/-- What the buffer held at the start is not seen in what the reads find. -/
theorem reads_congr (same : buffer.length = otherBuffer.length) (count : Nat) (input : Input) :
    (reads count buffer input).map seen = (reads count otherBuffer input).map seen := by
  induction count generalizing input buffer otherBuffer with
  | zero => rfl
  | succ count hypothesis =>
      rcases readFrame_congr same input with ⟨result, rest, lengths, content⟩
      simp only [reads, List.map_cons, rest, hypothesis lengths]
      congr 1
      simp only [seen]
      cases found : (readFrame buffer input).result with
      | error fault => simp only [← result, found, Except.map]
      | ok length => simp only [← result, found, Except.map, content length found]

/-! ## How long a datagram can be -/

theorem length_taken_fill_le (count : Nat) (input : Input) :
    (fill count input).taken.length ≤ count := by
  by_cases enough : count ≤ input.remaining.length
  · rw [(fill_of_le enough).1]
    exact List.length_take_le count _
  · rw [fill_of_lt (Nat.not_le.mp enough)]
    exact Nat.le_of_not_le enough

theorem le_of_decodeLength {field : Bytes} {room : Nat}
    (decoded : decodeLength field room = .ok length) : length ≤ room := by
  simp only [decodeLength] at decoded
  split at decoded
  · cases decoded
  · rename_i fits
    cases decoded
    omega

/-- A read never finds more than the buffer holds, and the buffer stays as long as it is. -/
theorem length_readFrame_le (buffer : Bytes) (input : Input) :
    (readFrame buffer input).buffer.length = buffer.length ∧
      ∀ length, (readFrame buffer input).result = .ok length → length ≤ buffer.length := by
  simp only [readFrame]
  split
  · split
    · refine ⟨rfl, ?_⟩
      rintro _ ⟨⟩
      exact Nat.zero_le _
    · refine ⟨rfl, ?_⟩
      rintro _ ⟨⟩
  · split
    · refine ⟨rfl, ?_⟩
      rintro _ ⟨⟩
    · rename_i length decoded
      have room := le_of_decodeLength decoded
      have body := length_taken_fill_le length (fill lengthOctets input).rest
      have same : (Packet.overwrite buffer 0 (fill length (fill lengthOctets input).rest).taken).length
          = buffer.length := by
        rw [Packet.overwrite_zero, List.length_append, List.length_drop]
        omega
      split
      · refine ⟨same, ?_⟩
        rintro _ ⟨⟩
      · refine ⟨same, ?_⟩
        rintro _ ⟨⟩
        exact room

theorem length_reads_le (count : Nat) (buffer : Bytes) (input : Input) :
    ∀ read ∈ reads count buffer input, ∀ length, read.1 = .ok length →
      length ≤ buffer.length := by
  induction count generalizing buffer input with
  | zero =>
      intro read among
      cases among
  | succ count hypothesis =>
      rcases length_readFrame_le buffer input with ⟨same, room⟩
      intro read among
      rcases List.mem_cons.mp among with rfl | later
      · exact room
      · rw [← same]
        exact hypothesis _ _ read later

/-! ## From the writer to the reader -/

/-- Datagrams that are no shorter than their header and no longer than a length field can say and a
buffer can hold are all written, and read back in order into that buffer: each read tells the length
of one, puts its octets at the front and leaves what is behind them, and every further read finds the
end.  It makes no difference how the stream is cut and where reading is interrupted.  More generally,
what is read from any such stream is settled by its octets and the length of the buffer, and no read
finds more than the buffer holds. -/
theorem written_datagrams_are_read_back (buffer : Bytes) :
    (∀ datagrams : List Bytes, (∀ datagram ∈ datagrams, Datagram.headerLength ≤ datagram.length ∧
        datagram.length ≤ min maxLength buffer.length) →
      ∀ output : Output, output.TakesAll → output.stream = [] →
        (output.writeEach datagrams).1 = List.replicate datagrams.length (.ok ()) ∧
        ∀ input, Flows input → input.octets = (output.writeEach datagrams).2.stream →
          ∀ more, reads (datagrams.length + more) buffer input =
            readBack datagrams buffer ++
              List.replicate more (.ok 0, datagrams.foldl putFront buffer)) ∧
      (∀ input other, Flows input → Flows other → input.octets = other.octets → ∀ count,
        reads count buffer input = reads count buffer other ∧
        ∀ otherBuffer : Bytes, buffer.length = otherBuffer.length →
          (reads count buffer input).map seen = (reads count otherBuffer other).map seen) ∧
      ∀ input count, ∀ read ∈ reads count buffer input, ∀ length, read.1 = .ok length →
        length ≤ buffer.length := by
  refine ⟨?_, ?_, ?_⟩
  · intro datagrams sizes output takes blank
    have fits : ∀ datagram ∈ datagrams, Fits datagram := by
      intro datagram among
      exact ⟨(sizes datagram among).1, (Nat.le_min.mp (sizes datagram among).2).1⟩
    have room : ∀ datagram ∈ datagrams, datagram.length ≤ buffer.length := by
      intro datagram among
      exact (Nat.le_min.mp (sizes datagram among).2).2
    rcases takes.writeEach fits with ⟨written, stream⟩
    rw [blank, List.nil_append] at stream
    refine ⟨written, ?_⟩
    intro input flows joined more
    rcases flows.to_end with ⟨remains, ended⟩
    exact reads_framed fits room (remains.trans (joined.trans stream)) ended more
  · intro input other flows otherFlows same count
    have alike := (Alike.of_flows flows otherFlows same).reads count buffer
    refine ⟨alike, ?_⟩
    intro otherBuffer lengths
    rw [alike]
    exact reads_congr lengths count other
  · intro input count
    exact length_reads_le count buffer input

/-- Two datagrams are written seven octets at a time and read from three pieces, of which the first ends
within a length field, with an interruption behind each. -/
theorem written_datagrams_are_read_back_in_pieces :
    let output : Output := ⟨some 7, none, none, []⟩
    let interruption : Piece := .fault (.device .interrupted "scripted")
    let longer := Sample.bare ++ [0x01]
    let input : Input := [.octets [0x00], interruption, .octets (0x28 :: Sample.bare ++ [0x00, 0x29]),
      interruption, .octets longer, interruption]
    let buffer := List.replicate 50 0xee
    let filled := Sample.bare ++ 0x01 :: List.replicate 9 0xee
    output.TakesAll ∧ Flows input ∧
      input.octets = (output.writeEach [Sample.bare, longer]).2.stream ∧
      reads 4 buffer input = [(.ok 40, Sample.bare ++ List.replicate 10 0xee), (.ok 41, filled),
        (.ok 0, filled), (.ok 0, filled)] := by
  intro output interruption longer input buffer filled
  have takes : output.TakesAll := ⟨by simp [output], rfl, rfl⟩
  have flows : Flows input := by
    constructor
    · simp [input, interruption, longer, Sample.bare]
    · simp [input, interruption, Fault.kind]
  have fits : ∀ datagram ∈ [Sample.bare, longer], Fits datagram := by
    simp only [List.forall_mem_cons, List.not_mem_nil, false_imp_iff, implies_true, and_true]
    exact ⟨Sample.fits_bare, by decide, by decide⟩
  have joined : input.octets = (output.writeEach [Sample.bare, longer]).2.stream := by
    rw [(takes.writeEach fits).2]
    decide
  have sizes : ∀ datagram ∈ [Sample.bare, longer], Datagram.headerLength ≤ datagram.length ∧
      datagram.length ≤ min maxLength buffer.length := by
    simp only [List.forall_mem_cons, List.not_mem_nil, false_imp_iff, implies_true, and_true]
    exact ⟨⟨by decide, by decide⟩, by decide, by decide⟩
  have found := (written_datagrams_are_read_back buffer).1 [Sample.bare, longer] sizes output takes rfl
  exact ⟨takes, flows, joined, found.2 input flows joined 2⟩

end TunnelServer.Pipe
