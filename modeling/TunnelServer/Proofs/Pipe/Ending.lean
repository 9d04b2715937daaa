import TunnelServer.Proofs.Pipe.Transfer

/-!
# Where a stream ends

A stream of octets falls into whole frames and what stands behind the last of them.  That may be
nothing, a single octet of a length, a length with less behind it than it announces, or a length that
no datagram has.  What a reader tells of the end depends on which of the four it is, however the stream
is cut into pieces and wherever reading is interrupted.

A datagram that is cut off is reported.  A length that is cut off is not: one octet that is left over
is taken for nothing at all, so that a server whose local stream breaks off there takes it for complete.
-/

namespace TunnelServer

namespace Pipe

/-- What stands behind the last whole frame of a stream. -/
inductive Ending where
  | nothing
  /-- The stream breaks off within the length of a datagram. -/
  | partOfLength
  /-- The stream breaks off within a datagram whose length is there. -/
  | partOfDatagram
  /-- No datagram has the length that stands there, or none that the room is enough for. -/
  | badLength (length : Nat)
  deriving DecidableEq

/-- What a read tells of an ending. -/
def Ending.told : Ending → Except Fault Nat
  | nothing => .ok 0
  | partOfLength => .ok 0
  | partOfDatagram => .error .endedEarly
  | badLength length => .error (.badFrame (.invalidPipeLength length))

/-- What a reader that reads on to the end is left with. -/
def Ending.result (ending : Ending) : Except Fault Unit := ending.told.map fun _ => ()

/-- Octets that begin with no whole frame for the room that there is: they are an ending. -/
inductive Ends (room : Nat) : Bytes → Ending → Prop where
  | nothing : Ends room [] .nothing
  | partOfLength (octet : UInt8) : Ends room [octet] .partOfLength
  | partOfDatagram {row part : Bytes} (fits : Fits row) (space : row.length ≤ room)
      (begins : part <+: row) (short : part.length < row.length) :
      Ends room (BigEndian.encode lengthOctets row.length ++ part) .partOfDatagram
  | badLength {field : Bytes} (rest : Bytes) (whole : field.length = lengthOctets)
      (bad : BigEndian.decode field < Datagram.headerLength ∨ room < BigEndian.decode field) :
      Ends room (field ++ rest) (.badLength (BigEndian.decode field))

/-- Octets fall into the frames of these rows and an ending. -/
inductive FallsInto (room : Nat) : Bytes → List Bytes → Ending → Prop where
  | ending {octets : Bytes} {ending : Ending} (ends : Ends room octets ending) :
      FallsInto room octets [] ending
  | frame {row rest : Bytes} {rows : List Bytes} {ending : Ending} (fits : Fits row)
      (space : row.length ≤ room) (later : FallsInto room rest rows ending) :
      FallsInto room (framed row ++ rest) (row :: rows) ending

variable {input : Input} {buffer octets row : Bytes} {rows : List Bytes} {ending : Ending}
variable {room : Nat}

/-! ## Every stream has an ending -/

theorem encode_decode_field {field : Bytes} (whole : field.length = lengthOctets) :
    BigEndian.encode lengthOctets (BigEndian.decode field) = field := by
  rw [← whole]
  exact BigEndian.encode_decode field

theorem decode_field_le {field : Bytes} (whole : field.length = lengthOctets) :
    BigEndian.decode field ≤ maxLength := by
  have bound := BigEndian.decode_lt field
  rw [whole] at bound
  exact Nat.le_of_lt_succ bound

/-- Octets begin with a whole frame, or they are an ending. -/
theorem framed_or_ending (room : Nat) (octets : Bytes) :
    (∃ row rest, Fits row ∧ row.length ≤ room ∧ octets = framed row ++ rest) ∨
      ∃ ending, Ends room octets ending := by
  match octets with
  | [] => exact .inr ⟨_, .nothing⟩
  | [octet] => exact .inr ⟨_, .partOfLength octet⟩
  | first :: second :: body =>
      have whole : [first, second].length = lengthOctets := rfl
      generalize announced : BigEndian.decode [first, second] = length
      by_cases bad : length < Datagram.headerLength ∨ room < length
      · subst announced
        exact .inr ⟨_, .badLength body whole bad⟩
      · have field := encode_decode_field whole
        have small := decode_field_le whole
        rw [announced] at field small
        by_cases short : body.length < length
        · right
          -- Any octets behind those that are there make up a datagram.
          let row := body ++ List.replicate (length - body.length) 0
          have long : row.length = length := by
            simp only [row, List.length_append, List.length_replicate]
            omega
          have fits : Fits row := by
            constructor <;> omega
          have ends : Ends room (BigEndian.encode lengthOctets row.length ++ body)
              .partOfDatagram :=
            .partOfDatagram fits (by omega) (List.prefix_append _ _) (by omega)
          rw [long, field] at ends
          exact ⟨_, ends⟩
        · left
          have long : (body.take length).length = length :=
            List.length_take_of_le (Nat.le_of_not_lt short)
          refine ⟨body.take length, body.drop length, ⟨by omega, by omega⟩, by omega, ?_⟩
          rw [framed, long, field, List.append_assoc, List.take_append_drop]
          rfl

theorem exists_fallsInto (room : Nat) (octets : Bytes) :
    ∃ rows ending, FallsInto room octets rows ending := by
  induction size : octets.length using Nat.strongRecOn generalizing octets with
  | ind count hypothesis =>
      rcases framed_or_ending room octets with ⟨row, rest, fits, space, rfl⟩ | ⟨ending, ends⟩
      · have shorter : rest.length < count := by
          rw [← size, List.length_append, length_framed, lengthOctets]
          omega
        rcases hypothesis rest.length shorter rest rfl with ⟨rows, ending, later⟩
        exact ⟨row :: rows, ending, .frame fits space later⟩
      · exact ⟨[], ending, .ending ends⟩

/-! ## One read -/

theorem Flows.fill (flows : Flows input) (count : Nat) : Flows (fill count input).rest := by
  fun_induction Pipe.fill count input with
  | case1 => exact flows
  | case2 => exact flows
  | case3 count fault rest interrupted hypothesis => exact hypothesis flows.tail
  | case4 => exact flows.tail
  | case5 => exact flows.tail
  | case6 count bytes rest filled more =>
      have left : bytes.drop (count + 1) ≠ [] := by simpa using more
      exact flows.tail.cons (by simpa using left) (by simp)
  | case7 count bytes rest filled few more hypothesis => exact hypothesis flows.tail

/-- What is left of a stream after a read still stops for nothing but interruptions. -/
theorem Flows.readFrame (flows : Flows input) (buffer : Bytes) :
    Flows (readFrame buffer input).rest := by
  have field := flows.fill lengthOctets
  simp only [Pipe.readFrame]
  split
  · split
    · exact field
    · exact field
  · split
    · exact field
    · rename_i length _
      have body := field.fill length
      split
      · exact body
      · exact body

/-- Fewer octets than a length takes are taken for the end of the stream, and are gone. -/
theorem Flows.readFrame_of_short (flows : Flows input)
    (short : input.octets.length < lengthOctets) : Pipe.readFrame buffer input = ⟨.ok 0, buffer, []⟩ := by
  rcases flows.to_end with ⟨remains, stops⟩
  rw [← remains] at short
  simp only [Pipe.readFrame, fill_of_lt short, stops]
  rfl

theorem Flows.readFrame_of_partOfDatagram {part : Bytes} (flows : Flows input) (fits : Fits row)
    (space : row.length ≤ buffer.length) (short : part.length < row.length)
    (there : input.octets = BigEndian.encode lengthOctets row.length ++ part) :
    (Pipe.readFrame buffer input).result = .error .endedEarly := by
  rcases flows.to_end with ⟨remains, stops⟩
  rw [there] at remains
  have field : lengthOctets ≤ input.remaining.length := by
    rw [remains]
    simp
  rcases fill_of_le field with ⟨taken, noFault, left, stopsLater⟩
  rw [remains, List.take_left' (by simp)] at taken
  rw [remains, List.drop_left' (by simp)] at left
  rw [← left] at short
  have decoded : decodeLength (Pipe.fill lengthOctets input).taken buffer.length = .ok row.length := by
    rw [taken]
    exact decodeLength_encode fits space
  apply readFrame_of_fault noFault decoded
  rw [fill_of_lt short, stopsLater, stops]

theorem Flows.readFrame_of_badLength {field rest : Bytes} (flows : Flows input)
    (whole : field.length = lengthOctets) (there : input.octets = field ++ rest)
    (bad : BigEndian.decode field < Datagram.headerLength ∨
      buffer.length < BigEndian.decode field) :
    (Pipe.readFrame buffer input).result =
      .error (.badFrame (.invalidPipeLength (BigEndian.decode field))) := by
  rcases flows.to_end with ⟨remains, -⟩
  rw [there] at remains
  have enough : lengthOctets ≤ input.remaining.length := by
    rw [remains, List.length_append, whole]
    exact Nat.le_add_right _ _
  rcases fill_of_le enough with ⟨taken, noFault, -, -⟩
  rw [remains, List.take_left' whole] at taken
  have refused : decodeLength field buffer.length =
      .error (.invalidPipeLength (BigEndian.decode field)) := if_pos bad
  simp only [Pipe.readFrame, noFault, taken, refused]

/-- A read that finds no frame but an ending tells of that. -/
theorem Ends.result_readFrame (ends : Ends buffer.length input.octets ending)
    (flows : Flows input) : (readFrame buffer input).result = ending.told := by
  generalize there : input.octets = octets at ends
  cases ends with
  | nothing =>
      rw [flows.readFrame_of_short (by simp [there, lengthOctets])]
      rfl
  | partOfLength octet =>
      rw [flows.readFrame_of_short (by simp [there, lengthOctets])]
      rfl
  | partOfDatagram fits space begins short =>
      exact flows.readFrame_of_partOfDatagram fits space short there
  | badLength rest whole bad => exact flows.readFrame_of_badLength whole there bad

/-- A read that finds a frame takes just that. -/
theorem Flows.readFrame_framed {rest : Bytes} (flows : Flows input) (fits : Fits row)
    (space : row.length ≤ buffer.length) (there : input.octets = framed row ++ rest) :
    (Pipe.readFrame buffer input).result = .ok row.length ∧
      (Pipe.readFrame buffer input).buffer.take row.length = row ∧
      (Pipe.readFrame buffer input).buffer.length = buffer.length ∧
      (Pipe.readFrame buffer input).rest.octets = rest := by
  rcases flows.to_end with ⟨remains, -⟩
  rcases Pipe.readFrame_framed fits space (remains.trans there) with ⟨result, filled, left, -⟩
  refine ⟨result, ?_, (length_readFrame_le buffer input).1, ?_⟩
  · rw [filled, List.take_left]
  · rw [← (flows.readFrame buffer).to_end.1, left]

/-! ## Read after read -/

/-- The buffer and the stream as some reads leave them. -/
def afterReads : (count : Nat) → (buffer : Bytes) → Input → Bytes × Input
  | 0, buffer, input => (buffer, input)
  | count + 1, buffer, input =>
    let read := readFrame buffer input
    afterReads count read.buffer read.rest

theorem Flows.afterReads (flows : Flows input) (count : Nat) (buffer : Bytes) :
    Flows (afterReads count buffer input).2 := by
  induction count generalizing input buffer with
  | zero => exact flows
  | succ count hypothesis => exact hypothesis (flows.readFrame buffer) _

/-- The last of some reads is made of what the others leave. -/
theorem reads_succ (count : Nat) (buffer : Bytes) (input : Input) :
    reads (count + 1) buffer input = reads count buffer input ++
      reads 1 (afterReads count buffer input).1 (afterReads count buffer input).2 := by
  induction count generalizing buffer input with
  | zero => rfl
  | succ count hypothesis =>
      rw [reads, hypothesis]
      rfl

theorem told_eq_end_iff (ends : Ends room octets ending) :
    ending.told = .ok 0 ↔ octets.length < lengthOctets := by
  cases ends with
  | nothing => exact iff_of_true rfl (by decide)
  | partOfLength octet => exact iff_of_true rfl (by simp [lengthOctets])
  | partOfDatagram fits space begins short => simp [Ending.told]
  | badLength rest whole bad => simp [Ending.told, whole]

/-- A read tells the end of the stream if there are fewer octets left than a length takes, be it none
or be it one, and at no other place. -/
theorem Flows.readFrame_eq_end_iff (flows : Flows input) (buffer : Bytes) :
    (Pipe.readFrame buffer input).result = .ok 0 ↔ input.octets.length < lengthOctets := by
  rcases framed_or_ending buffer.length input.octets with
    ⟨row, rest, fits, space, there⟩ | ⟨ending, ends⟩
  · have long := fits.1
    rw [(flows.readFrame_framed fits space there).1, there, List.length_append, length_framed]
    simp only [Except.ok.injEq, Datagram.headerLength] at long ⊢
    omega
  · rw [ends.result_readFrame flows]
    exact told_eq_end_iff ends

/-- Reads find the rows one after the other, and then the ending. -/
theorem FallsInto.seen_reads (falls : FallsInto room octets rows ending) (flows : Flows input)
    (there : input.octets = octets) (space : buffer.length = room) :
    (reads (rows.length + 1) buffer input).map seen =
      rows.map (fun row => .ok (row.length, row)) ++
        [ending.told.map fun length => (length, [])] := by
  induction falls generalizing input buffer with
  | @ending octets ending ends =>
      subst there space
      have told := ends.result_readFrame flows
      simp only [List.length_nil, reads, List.map_cons, List.map_nil, List.nil_append, seen, told]
      cases ending <;> rfl
  | @frame row rest rows ending fits small later hypothesis =>
      subst space
      rcases flows.readFrame_framed fits small there with ⟨result, front, same, left⟩
      rw [List.length_cons, reads, List.map_cons, hypothesis (flows.readFrame buffer) left same]
      simp only [seen, result, Except.map, front, List.map_cons, List.cons_append]

theorem Ends.frames_eq (ends : Ends buffer.length input.octets ending) (flows : Flows input) :
    frames buffer input = ([], ending.result) := by
  have told := ends.result_readFrame flows
  cases ending with
  | nothing => exact frames_of_end told
  | partOfLength => exact frames_of_end told
  | partOfDatagram => exact frames_of_fault told
  | badLength length => exact frames_of_fault told

/-- One who reads on to the end finds the same rows, and is left with the ending. -/
theorem FallsInto.frames_eq (falls : FallsInto room octets rows ending) (flows : Flows input)
    (there : input.octets = octets) (space : buffer.length = room) :
    frames buffer input = (rows, ending.result) := by
  induction falls generalizing input buffer with
  | ending ends =>
      subst there space
      exact ends.frames_eq flows
  | @frame row rest rows ending fits small later hypothesis =>
      subst space
      rcases flows.readFrame_framed fits small there with ⟨result, front, same, left⟩
      have nonzero : row.length ≠ 0 := Nat.ne_of_gt (Nat.lt_of_lt_of_le (by decide) fits.1)
      rw [frames_of_length result nonzero, hypothesis (flows.readFrame buffer) left same, front]

end Pipe

open Pipe

/-- A stream falls into whole frames and an ending, however it is cut into pieces and wherever reading
is interrupted.  Reads find the frames one after the other, each once and whole, and then tell of the
ending; a server that reads on deals with the frames and is left with the ending.  After any number of
reads the next one tells the end of the stream if and only if fewer octets are left than a length takes,
and then nothing is left: a datagram that is cut off is reported as such, but of a length that is cut off
one octet may be lost without a report. -/
theorem stream_end_is_told_by_octets_left {input : Input} (flows : Flows input) :
    (∀ buffer count,
      let left := afterReads count buffer input
      let read := readFrame left.1 left.2
      reads (count + 1) buffer input = reads count buffer input ++ [(read.result, read.buffer)] ∧
        (read.result = .ok 0 ↔ left.2.octets.length < lengthOctets) ∧
        (read.result = .ok 0 → read.rest = []) ∧
        ∀ ending, Ends left.1.length left.2.octets ending → read.result = ending.told) ∧
      (∀ room, ∃ rows ending, FallsInto room input.octets rows ending) ∧
      (∀ (buffer : Bytes) rows ending, FallsInto buffer.length input.octets rows ending →
        (reads (rows.length + 1) buffer input).map seen =
          rows.map (fun row => .ok (row.length, row)) ++
            [ending.told.map fun length => (length, [])]) ∧
      ∀ rows ending, FallsInto maxLength input.octets rows ending →
        ∀ unhandled (state : State Session), state.takeStream unhandled false input =
          (rows.foldl (fun state row => state.takeRead unhandled row) state, ending.result) := by
  refine ⟨?_, ?_, ?_, ?_⟩
  · intro buffer count left read
    have flowsOn : Flows left.2 := flows.afterReads count buffer
    have told := flowsOn.readFrame_eq_end_iff left.1
    refine ⟨reads_succ count buffer input, told, ?_, ?_⟩
    · intro ended
      simp only [read, flowsOn.readFrame_of_short (told.mp ended)]
    · intro ending ends
      exact ends.result_readFrame flowsOn
  · intro room
    exact exists_fallsInto room input.octets
  · intro buffer rows ending falls
    exact falls.seen_reads flows rfl rfl
  · intro rows ending falls unhandled state
    have found := falls.frames_eq flows rfl State.length_readBuffer
    exact State.takeStream_of_frames found unhandled state

/-- A frame is dealt with, and the next one, whose datagram is cut off, is reported. -/
theorem stream_end_is_told_after_frame :
    let input : Input := [.octets [0x00], .fault (.device .interrupted "scripted"),
      .octets (0x28 :: Sample.bare ++ [0x00, 0x29, 0x60])]
    Flows input ∧ FallsInto maxLength input.octets [Sample.bare] .partOfDatagram ∧
      Sample.empty.takeStream none false input =
        (Sample.empty.takeRead none Sample.bare, .error .endedEarly) := by
  intro input
  have flows : Flows input := by
    constructor
    · simp [input]
    · simp [input, Fault.kind]
  have longer : Fits (Sample.bare ++ [0x00]) := ⟨by decide, by decide⟩
  have begins : [0x60] <+: Sample.bare ++ [0x00] := by decide
  have ends : Ends maxLength [0x00, 0x29, 0x60] .partOfDatagram :=
    .partOfDatagram longer longer.2 begins (by decide)
  have falls : FallsInto maxLength input.octets [Sample.bare] .partOfDatagram :=
    .frame Sample.fits_bare Sample.fits_bare.2 (.ending ends)
  exact ⟨flows, falls,
    (stream_end_is_told_by_octets_left flows).2.2.2 _ _ falls none Sample.empty⟩

/-- A stream of one octet breaks off within the length of a datagram, and that octet is read, but the
stream is told, and taken by the server, for one that has ended. -/
theorem stream_end_hides_part_of_length :
    let input : Input := [.octets [0x00]]
    Flows input ∧ Ends maxLength input.octets .partOfLength ∧ input.octets = [0x00] ∧
      readFrame State.readBuffer input = ⟨.ok 0, State.readBuffer, []⟩ ∧
      Sample.empty.takeStream none false input = (Sample.empty, .ok ()) := by
  intro input
  have flows : Flows input := ⟨by simp [input], by simp [input]⟩
  have ends : Ends maxLength input.octets .partOfLength := .partOfLength 0x00
  have found := (FallsInto.ending ends).frames_eq flows rfl State.length_readBuffer
  exact ⟨flows, ends, rfl, flows.readFrame_of_short (by simp [input, Input.octets, lengthOctets]),
    State.takeStream_of_frames found none Sample.empty⟩

end TunnelServer
