import TunnelServer.Pipe.Input

/-!
# What reads find in a stream

A field is filled from the octets that stand before the next stop, which is the end of the stream or a
failure that is no interruption, and it makes no difference how these octets are cut into pieces.
If there are too few of them, all are taken, the stop is reported, and the stream goes on after it.
Frames are read accordingly: one that is there in full is read, and of one that is cut off by a
failure nothing is kept.
-/

namespace TunnelServer.Pipe

namespace Input

/-- What stops the reading of the octets that remain, and the stream after it. -/
def stop : Input → Fault × Input
  | [] => (.endedEarly, [])
  | .fault fault :: rest => if fault.kind = .interrupted then stop rest else (fault, rest)
  | .octets bytes :: rest => if bytes = [] then (.endedEarly, rest) else stop rest

/-- All octets of a stream. -/
def octets : Input → Bytes
  | [] => []
  | .fault _ :: rest => octets rest
  | .octets bytes :: rest => bytes ++ octets rest

end Input

variable {count : Nat} {input : Input}

/-! ## Filling a field -/

theorem fill_of_le (enough : count ≤ input.remaining.length) :
    (fill count input).taken = input.remaining.take count ∧ (fill count input).fault = none ∧
      (fill count input).rest.remaining = input.remaining.drop count ∧
      (fill count input).rest.stop = input.stop := by
  fun_induction fill count input with
  | case1 => simp
  | case2 => simp [Input.remaining] at enough
  | case3 count fault rest interrupted hypothesis =>
      simp only [Input.remaining, interrupted, if_true] at enough
      simpa only [Input.remaining, Input.stop, interrupted, if_true] using hypothesis enough
  | case4 count fault rest stops => simp [Input.remaining, stops] at enough
  | case5 count rest => simp [Input.remaining] at enough
  | case6 count bytes rest filled more =>
      have left : bytes.drop (count + 1) ≠ [] := by simpa using more
      simp only [Input.remaining, Input.stop, if_neg filled, if_neg left]
      rw [List.take_append_of_le_length (Nat.le_of_lt more),
        List.drop_append_of_le_length (Nat.le_of_lt more)]
      simp
  | case7 count bytes rest filled few more hypothesis =>
      simp only [Input.remaining, if_neg filled, List.length_append] at enough
      have few := Nat.not_lt.mp few
      rcases hypothesis (by omega) with ⟨taken, fault, left, stops⟩
      simp only [Input.remaining, Input.stop, if_neg filled]
      refine ⟨?_, fault, ?_, stops⟩
      · rw [List.take_append, List.take_of_length_le few]
        exact congrArg (bytes ++ ·) taken
      · rw [List.drop_append, List.drop_of_length_le few, List.nil_append]
        exact left

theorem fill_of_lt (short : input.remaining.length < count) :
    fill count input = ⟨input.remaining, some input.stop.1, input.stop.2⟩ := by
  fun_induction fill count input with
  | case1 => simp at short
  | case2 => rfl
  | case3 count fault rest interrupted hypothesis =>
      simp only [Input.remaining, interrupted, if_true] at short
      simpa only [Input.remaining, Input.stop, interrupted, if_true] using hypothesis short
  | case4 count fault rest stops => simp [Input.remaining, Input.stop, stops]
  | case5 count rest => simp [Input.remaining, Input.stop]
  | case6 count bytes rest filled more =>
      simp only [Input.remaining, if_neg filled, List.length_append] at short
      omega
  | case7 count bytes rest filled few more hypothesis =>
      simp only [Input.remaining, if_neg filled, List.length_append] at short
      have later : more = _ := hypothesis (by omega)
      simp only [Input.remaining, Input.stop, if_neg filled, later]

/-- What was taken and what is left are all that was there. -/
theorem octets_fill (count : Nat) (input : Input) :
    (fill count input).taken ++ (fill count input).rest.octets = input.octets := by
  fun_induction fill count input with
  | case1 => rfl
  | case2 => rfl
  | case3 count fault rest interrupted hypothesis => exact hypothesis
  | case4 => rfl
  | case5 => rfl
  | case6 count bytes rest filled more =>
      rw [Input.octets, Input.octets, ← List.append_assoc, List.take_append_drop]
  | case7 count bytes rest filled few more hypothesis =>
      rw [List.append_assoc]
      exact congrArg (bytes ++ ·) hypothesis

/-! ## Reading a frame -/

/-- The frame of a row of octets: its length in two octets, and then the row itself. -/
def framed (row : Bytes) : Bytes := BigEndian.encode lengthOctets row.length ++ row

/-- A row of octets has a frame that can be read back: it is no shorter than a datagram's header and
its length can be written in two octets. -/
def Fits (row : Bytes) : Prop := Datagram.headerLength ≤ row.length ∧ row.length ≤ maxLength

/-- The beginning of a frame that is not there in full. -/
def Unfinished (part : Bytes) : Prop :=
  ∃ row, Fits row ∧ part <+: framed row ∧ part.length < (framed row).length

variable {row part rest buffer other : Bytes}

@[simp]
theorem length_framed (row : Bytes) : (framed row).length = lengthOctets + row.length := by
  simp [framed]

theorem frame_of_small (small : row.length ≤ maxLength) : frame row = .ok (framed row) := by
  rw [frame, encodeLength, if_pos small]
  rfl

theorem decodeLength_encode (fits : Fits row) (room : row.length ≤ buffer.length) :
    decodeLength (BigEndian.encode lengthOctets row.length) buffer.length = .ok row.length := by
  have small : row.length < 65536 := Nat.lt_succ_of_le fits.2
  have length : BigEndian.decode (BigEndian.encode lengthOctets row.length) = row.length := by
    rw [BigEndian.decode_encode]
    exact Nat.mod_eq_of_lt small
  simp only [decodeLength, length]
  rw [if_neg]
  have long := fits.1
  omega

theorem Unfinished.nil : Unfinished [] := by
  refine ⟨List.replicate 40 0, ⟨by simp [Datagram.headerLength], by simp [maxLength]⟩,
    List.nil_prefix, ?_⟩
  simp [lengthOctets]

/-- A frame that is there in full is read into the front of the buffer. -/
theorem readFrame_framed (fits : Fits row) (room : row.length ≤ buffer.length)
    (there : input.remaining = framed row ++ rest) :
    (readFrame buffer input).result = .ok row.length ∧
      (readFrame buffer input).buffer = row ++ buffer.drop row.length ∧
      (readFrame buffer input).rest.remaining = rest ∧
      (readFrame buffer input).rest.stop = input.stop := by
  have field : lengthOctets ≤ input.remaining.length := by
    rw [there, List.length_append, length_framed]
    omega
  rcases fill_of_le field with ⟨taken, noFault, left, stops⟩
  rw [there, framed, List.append_assoc, List.take_left' (by simp)] at taken
  rw [there, framed, List.append_assoc, List.drop_left' (by simp)] at left
  have body : row.length ≤ (fill lengthOctets input).rest.remaining.length := by
    rw [left, List.length_append]
    omega
  rcases fill_of_le body with ⟨bodyTaken, noBodyFault, after, bodyStops⟩
  rw [left, List.take_left] at bodyTaken
  rw [left, List.drop_left] at after
  simp only [readFrame, noFault, taken, decodeLength_encode fits room, noBodyFault]
  refine ⟨trivial, ?_, after, bodyStops.trans stops⟩
  rw [bodyTaken, Packet.overwrite_zero]

/-- Of a frame that is cut off by a failure nothing is kept: the stream goes on after the failure. -/
theorem readFrame_unfinished (unfinished : Unfinished part) (room : maxLength ≤ buffer.length)
    (there : input.remaining = part) (failed : input.stop.1.kind ≠ .unexpectedEnd) :
    (readFrame buffer input).result = .error input.stop.1 ∧
      (readFrame buffer input).buffer.length = buffer.length ∧
      (readFrame buffer input).rest = input.stop.2 := by
  rcases unfinished with ⟨row, fits, ⟨missing, joined⟩, short⟩
  subst there
  by_cases field : lengthOctets ≤ input.remaining.length
  · rcases fill_of_le field with ⟨taken, noFault, left, stops⟩
    rw [← List.take_append_of_le_length field, joined, framed, List.take_left' (by simp)] at taken
    have roomForRow : row.length ≤ buffer.length := Nat.le_trans fits.2 room
    have body : (fill lengthOctets input).rest.remaining.length < row.length := by
      rw [length_framed] at short
      rw [left, List.length_drop]
      omega
    simp only [readFrame, noFault, taken, decodeLength_encode fits roomForRow, fill_of_lt body,
      stops, Packet.overwrite_zero, List.length_append, List.length_drop]
    refine ⟨trivial, ?_, trivial⟩
    omega
  · simp only [readFrame, fill_of_lt (Nat.not_le.mp field), if_neg failed]
    exact ⟨trivial, trivial, trivial⟩

theorem readFrame_of_fault {length : Nat} {fault : Fault}
    (filled : (fill lengthOctets input).fault = none)
    (decoded : decodeLength (fill lengthOctets input).taken buffer.length = .ok length)
    (failed : (fill length (fill lengthOctets input).rest).fault = some fault) :
    (readFrame buffer input).result = .error fault := by
  simp only [readFrame, filled, decoded, failed]

theorem length_taken_of_fault (filled : (fill count input).fault = none) :
    (fill count input).taken.length = count := by
  by_cases enough : count ≤ input.remaining.length
  · rw [(fill_of_le enough).1]
    exact List.length_take_of_le enough
  · rw [fill_of_lt (Nat.not_le.mp enough)] at filled
    cases filled

/-- What a read finds does not depend on what the buffer held before. -/
theorem readFrame_congr (same : buffer.length = other.length) (input : Input) :
    (readFrame buffer input).result = (readFrame other input).result ∧
      (readFrame buffer input).rest = (readFrame other input).rest ∧
      (readFrame buffer input).buffer.length = (readFrame other input).buffer.length ∧
      ∀ length, (readFrame buffer input).result = .ok length →
        (readFrame buffer input).buffer.take length =
          (readFrame other input).buffer.take length := by
  simp only [readFrame, ← same]
  split
  · split
    · refine ⟨rfl, rfl, same, ?_⟩
      rintro _ ⟨⟩
      rfl
    · refine ⟨rfl, rfl, same, ?_⟩
      rintro _ ⟨⟩
  · split
    · refine ⟨rfl, rfl, same, ?_⟩
      rintro _ ⟨⟩
    · rename_i length _
      have lengths : ∀ octets : Bytes, (Packet.overwrite buffer 0 octets).length =
          (Packet.overwrite other 0 octets).length := by
        intro octets
        simp only [Packet.overwrite_zero, List.length_append, List.length_drop, same]
      split
      · refine ⟨rfl, rfl, lengths _, ?_⟩
        rintro _ ⟨⟩
      · rename_i noFault
        refine ⟨rfl, rfl, lengths _, ?_⟩
        rintro _ ⟨⟩
        have taken := length_taken_of_fault noFault
        rw [Packet.overwrite_zero, Packet.overwrite_zero, List.take_left' taken,
          List.take_left' taken]

theorem length_octets_fill (count : Nat) (input : Input) :
    (fill count input).taken.length + (fill count input).rest.octets.length =
      input.octets.length := by
  rw [← List.length_append, octets_fill]

/-- A read takes the frame that it reads out of the stream, and it never puts anything in. -/
theorem length_octets_readFrame (buffer : Bytes) (input : Input) :
    (readFrame buffer input).rest.octets.length ≤ input.octets.length ∧
      ∀ length, (readFrame buffer input).result = .ok length → length ≠ 0 →
        lengthOctets + length + (readFrame buffer input).rest.octets.length =
          input.octets.length := by
  have field := length_octets_fill lengthOctets input
  simp only [readFrame]
  split
  · have shorter : (fill lengthOctets input).rest.octets.length ≤ input.octets.length := by omega
    split
    · refine ⟨shorter, ?_⟩
      rintro _ ⟨⟩ nonzero
      exact absurd rfl nonzero
    · refine ⟨shorter, ?_⟩
      rintro _ ⟨⟩
  · rename_i fieldFilled
    rw [length_taken_of_fault fieldFilled] at field
    split
    · constructor
      · dsimp only
        omega
      · rintro _ ⟨⟩
    · rename_i length _
      have body := length_octets_fill length (fill lengthOctets input).rest
      split
      · constructor
        · dsimp only
          omega
        · rintro _ ⟨⟩
      · rename_i bodyFilled
        rw [length_taken_of_fault bodyFilled] at body
        refine ⟨?_, ?_⟩
        · dsimp only
          omega
        · rintro _ ⟨⟩ _
          dsimp only
          omega

/-! ## Reading frame after frame -/

theorem frames_of_end (ended : (readFrame buffer input).result = .ok 0) :
    frames buffer input = ([], .ok ()) := by
  rw [frames.eq_def]
  dsimp only
  split
  · rename_i length found
    cases ended.symm.trans found
    simp
  · rename_i fault found
    cases ended.symm.trans found

theorem frames_of_length {length : Nat} (found : (readFrame buffer input).result = .ok length)
    (more : length ≠ 0) :
    frames buffer input =
      ((readFrame buffer input).buffer.take length ::
          (frames (readFrame buffer input).buffer (readFrame buffer input).rest).1,
        (frames (readFrame buffer input).buffer (readFrame buffer input).rest).2) := by
  conv => lhs; rw [frames.eq_def]
  dsimp only
  split
  · rename_i other foundOther
    cases found.symm.trans foundOther
    rw [dif_neg more]
  · rename_i fault failed
    cases found.symm.trans failed

theorem frames_of_fault {fault : Fault} (failed : (readFrame buffer input).result = .error fault) :
    frames buffer input =
      if fault.isRetryable then
        frames (readFrame buffer input).buffer (readFrame buffer input).rest
      else ([], .error fault) := by
  conv => lhs; rw [frames.eq_def]
  dsimp only
  split
  · rename_i length found
    cases failed.symm.trans found
  · rename_i other found
    cases failed.symm.trans found
    rfl

/-- What successive reads find does not depend on what the buffer held before. -/
theorem frames_congr (same : buffer.length = other.length) (input : Input) :
    frames buffer input = frames other input := by
  fun_induction frames buffer input generalizing other with
  | case1 buffer input read =>
      rename_i ended
      rcases readFrame_congr same input with ⟨result, -, -, -⟩
      rw [frames_of_end (result.symm.trans ended)]
  | case2 buffer input read length found more shorter later =>
      rename_i hypothesis
      rcases readFrame_congr same input with ⟨result, rest, lengths, content⟩
      rw [frames_of_length (result.symm.trans found) more, ← content length found, ← rest,
        ← hypothesis lengths]
  | case3 buffer input read fault failed again shorter =>
      rename_i hypothesis
      rcases readFrame_congr same input with ⟨result, rest, lengths, -⟩
      rw [frames_of_fault (result.symm.trans failed), if_pos again, ← rest, ← hypothesis lengths]
  | case4 buffer input read fault failed =>
      rename_i noMore
      rcases readFrame_congr same input with ⟨result, -, -, -⟩
      rw [frames_of_fault (result.symm.trans failed), if_neg noMore]

/-- Frames that are there in full are read one after the other. -/
theorem frames_append {rows : List Bytes} (fits : ∀ row ∈ rows, Fits row)
    (room : maxLength ≤ buffer.length)
    (there : input.remaining = (rows.map framed).flatten ++ rest) :
    ∃ left, left.remaining = rest ∧ left.stop = input.stop ∧
      frames buffer input = (rows ++ (frames buffer left).1, (frames buffer left).2) := by
  induction rows generalizing input with
  | nil => exact ⟨input, there, rfl, rfl⟩
  | cons row rows hypothesis =>
      have fitsRow := fits row List.mem_cons_self
      have roomForRow := Nat.le_trans fitsRow.2 room
      rw [List.map_cons, List.flatten_cons, List.append_assoc] at there
      rcases readFrame_framed fitsRow roomForRow there with ⟨found, content, after, stops⟩
      rcases hypothesis (fun row member => fits row (List.mem_cons_of_mem _ member)) after with
        ⟨left, remains, stopsLater, later⟩
      have length : (readFrame buffer input).buffer.length = buffer.length := by
        rw [content, List.length_append, List.length_drop]
        omega
      have nonzero : row.length ≠ 0 := Nat.ne_of_gt (Nat.lt_of_lt_of_le (by decide) fitsRow.1)
      refine ⟨left, remains, stopsLater.trans stops, ?_⟩
      rw [frames_of_length found nonzero, frames_congr length, later, content, List.take_left]
      rfl

/-- At the end of the stream, after the last frame, reading ends. -/
theorem frames_to_end {rows : List Bytes} (fits : ∀ row ∈ rows, Fits row)
    (room : maxLength ≤ buffer.length) (there : input.remaining = (rows.map framed).flatten)
    (ends : input.stop.1.kind = .unexpectedEnd) : frames buffer input = (rows, .ok ()) := by
  rw [← List.append_nil (rows.map framed).flatten] at there
  rcases frames_append fits room there with ⟨left, nothing, stops, found⟩
  have short : left.remaining.length < lengthOctets := by
    rw [nothing]
    decide
  have ended : (readFrame buffer left).result = .ok 0 := by
    simp only [readFrame, fill_of_lt short, stops, if_pos ends]
  rw [found, frames_of_end ended, List.append_nil]

theorem kind_ne_of_isRetryable {fault : Fault} (again : fault.isRetryable = true) :
    fault.kind ≠ .unexpectedEnd := by
  intro ends
  simp [Fault.isRetryable, ends] at again

/-- Reading starts over after a failure that calls for another try.  What was there of a frame in
progress is lost. -/
theorem frames_after_stop {rows : List Bytes} (fits : ∀ row ∈ rows, Fits row)
    (room : maxLength ≤ buffer.length) (unfinished : Unfinished part)
    (there : input.remaining = (rows.map framed).flatten ++ part)
    (again : input.stop.1.isRetryable = true) :
    frames buffer input =
      (rows ++ (frames buffer input.stop.2).1, (frames buffer input.stop.2).2) := by
  rcases frames_append fits room there with ⟨left, remains, stops, found⟩
  rw [← stops] at again ⊢
  rcases readFrame_unfinished unfinished room remains (kind_ne_of_isRetryable again) with
    ⟨failed, length, after⟩
  rw [found, frames_of_fault failed, if_pos again, after, frames_congr length]

/-- The frames that reads find are no longer, taken together, than the stream. -/
theorem length_frames_le (buffer : Bytes) (input : Input) :
    ((frames buffer input).1.map framed).flatten.length ≤ input.octets.length := by
  fun_induction frames buffer input with
  | case1 => exact Nat.zero_le _
  | case2 buffer input read length found more shorter later hypothesis =>
      have taken := (length_octets_readFrame buffer input).2 length found more
      have row : (framed (read.buffer.take length)).length ≤ lengthOctets + length := by
        rw [length_framed]
        exact Nat.add_le_add_left (List.length_take_le _ _) _
      rw [List.map_cons, List.flatten_cons, List.length_append, ← taken]
      exact Nat.add_le_add row hypothesis
  | case3 buffer input read fault failed again shorter hypothesis =>
      exact Nat.le_trans hypothesis (length_octets_readFrame buffer input).1
  | case4 => exact Nat.zero_le _

end TunnelServer.Pipe
