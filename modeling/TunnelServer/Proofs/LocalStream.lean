import TunnelServer.Proofs.Pipe.Reading
import TunnelServer.Proofs.Routing
import TunnelServer.Proofs.Run.Reachable

/-!
# Local streams that fail on the way

A local stream that only fails so that another try is called for is read to its end.  A failure
between two frames does no harm, and neither does an interruption, wherever it strikes.  Any other
failure within a frame does: the octets that were taken are gone, and the next try takes the middle
of the frame for the beginning of another one.  So what is read are the frames that the stream holds
if and only if no such failure falls within a frame.
-/

namespace TunnelServer

namespace Pipe

/-- Nothing but interruptions stops a reader in these pieces. -/
structure Flows (input : Input) : Prop where
  filled : .octets [] ∉ input
  interrupted : ∀ fault, .fault fault ∈ input → fault.kind = .interrupted

/-- A stream holds the frames of these rows of octets, cut into pieces in one way or another, and
wherever it fails another try is called for. -/
structure Carries (input : Input) (rows : List Bytes) : Prop where
  filled : .octets [] ∉ input
  retryable : ∀ fault, .fault fault ∈ input → fault.isRetryable
  fits : ∀ row ∈ rows, Fits row
  joined : input.octets = (rows.map framed).flatten

/-- Only interruptions strike within a frame: before any other failure stand whole frames. -/
def FailsBetween (input : Input) (rows : List Bytes) : Prop :=
  ∀ earlier fault later, input = earlier ++ .fault fault :: later → fault.kind ≠ .interrupted →
    ∃ before, before <+: rows ∧ Input.octets earlier = (before.map framed).flatten

variable {input earlier later : Input} {fault : Fault} {rows before after : List Bytes}
variable {part buffer : Bytes}

/-! ## The first stop -/

@[simp]
theorem Input.octets_append (earlier later : Input) :
    Input.octets (earlier ++ later) = earlier.octets ++ later.octets := by
  induction earlier with
  | nil => rfl
  | cons piece earlier hypothesis =>
      cases piece with
      | fault fault => exact hypothesis
      | octets bytes => simp only [List.cons_append, Input.octets, hypothesis, List.append_assoc]

theorem Flows.nil : Flows [] :=
  ⟨List.not_mem_nil, fun _ there => absurd there List.not_mem_nil⟩

theorem Flows.tail {piece : Piece} (flows : Flows (piece :: input)) : Flows input :=
  ⟨fun there => flows.filled (List.mem_cons_of_mem _ there),
    fun fault there => flows.interrupted fault (List.mem_cons_of_mem _ there)⟩

/-- Pieces that flow are there to be read in full, up to what stops the reading after them. -/
theorem Flows.append (flows : Flows earlier) (later : Input) :
    Input.remaining (earlier ++ later) = earlier.octets ++ later.remaining ∧
      Input.stop (earlier ++ later) = later.stop := by
  induction earlier with
  | nil => exact ⟨rfl, rfl⟩
  | cons piece earlier hypothesis =>
      rcases hypothesis flows.tail with ⟨remains, stops⟩
      cases piece with
      | fault fault =>
          have interrupted := flows.interrupted fault List.mem_cons_self
          simp only [List.cons_append, Input.remaining, Input.octets, Input.stop, interrupted,
            if_true]
          exact ⟨remains, stops⟩
      | octets bytes =>
          have filled : bytes ≠ [] := by
            rintro rfl
            exact flows.filled List.mem_cons_self
          simp only [List.cons_append, Input.remaining, Input.octets, Input.stop, if_neg filled,
            remains, stops, List.append_assoc]
          exact ⟨trivial, trivial⟩

theorem Flows.to_fault (flows : Flows earlier) (stops : fault.kind ≠ .interrupted)
    (later : Input) :
    Input.remaining (earlier ++ .fault fault :: later) = earlier.octets ∧
      Input.stop (earlier ++ .fault fault :: later) = (fault, later) := by
  rcases flows.append (.fault fault :: later) with ⟨remains, stop⟩
  simp only [Input.remaining, if_neg stops, List.append_nil] at remains
  simp only [Input.stop, if_neg stops] at stop
  exact ⟨remains, stop⟩

theorem Flows.to_end (flows : Flows input) :
    input.remaining = input.octets ∧ input.stop = (.endedEarly, []) := by
  simpa [Input.remaining, Input.stop] using flows.append []

theorem Flows.cons {piece : Piece} (flows : Flows input) (filled : piece ≠ .octets [])
    (interrupted : ∀ fault, piece = .fault fault → fault.kind = .interrupted) :
    Flows (piece :: input) := by
  refine ⟨?_, ?_⟩
  · intro there
    rcases List.mem_cons.mp there with same | there
    · exact filled same.symm
    · exact flows.filled there
  · intro fault there
    rcases List.mem_cons.mp there with same | there
    · exact interrupted fault same.symm
    · exact flows.interrupted fault there

/-- A stream either flows to its end, or there is a first failure that is no interruption. -/
theorem flows_or_fails (filled : .octets [] ∉ input) :
    Flows input ∨ ∃ earlier fault later, input = earlier ++ .fault fault :: later ∧
      Flows earlier ∧ fault.kind ≠ .interrupted := by
  induction input with
  | nil => exact .inl .nil
  | cons piece input hypothesis =>
      have filledPiece : piece ≠ .octets [] := by
        rintro rfl
        exact filled List.mem_cons_self
      by_cases stops : ∃ fault, piece = .fault fault ∧ fault.kind ≠ .interrupted
      · rcases stops with ⟨fault, rfl, stops⟩
        exact .inr ⟨[], fault, input, rfl, .nil, stops⟩
      · have interrupted : ∀ fault, piece = .fault fault → fault.kind = .interrupted := by
          intro fault same
          apply Decidable.not_not.mp
          intro uninterrupted
          exact stops ⟨fault, same, uninterrupted⟩
        rcases hypothesis fun there => filled (List.mem_cons_of_mem _ there) with
          flows | ⟨earlier, fault, later, rfl, flows, uninterrupted⟩
        · exact .inl (flows.cons filledPiece interrupted)
        · exact .inr ⟨piece :: earlier, fault, later, rfl,
            flows.cons filledPiece interrupted, uninterrupted⟩

theorem Flows.failsBetween (flows : Flows input) (rows : List Bytes) :
    FailsBetween input rows := by
  rintro earlier fault later rfl stops
  exact absurd (flows.interrupted fault (by simp)) stops

/-! ## Where frames begin -/

theorem length_flatten_framed_pos (some : rows ≠ []) : 0 < (rows.map framed).flatten.length := by
  cases rows with
  | nil => exact absurd rfl some
  | cons row rows =>
      rw [List.map_cons, List.flatten_cons, List.length_append, length_framed]
      have positive : 0 < lengthOctets := by decide
      omega

/-- The beginning of a row of frames is some of them in full and the beginning of the next. -/
theorem frames_of_prefix {start : Bytes} (fits : ∀ row ∈ rows, Fits row)
    (starts : start <+: (rows.map framed).flatten) :
    ∃ before part, before <+: rows ∧ start = (before.map framed).flatten ++ part ∧
      Unfinished part := by
  induction rows generalizing start with
  | nil => exact ⟨[], [], List.prefix_rfl, List.prefix_nil.mp starts, .nil⟩
  | cons row rows hypothesis =>
      rw [List.map_cons, List.flatten_cons] at starts
      by_cases short : start.length < (framed row).length
      · have within : start <+: framed row :=
          List.prefix_of_prefix_length_le starts (List.prefix_append _ _) (Nat.le_of_lt short)
        exact ⟨[], start, List.nil_prefix, rfl, row, fits row List.mem_cons_self, within, short⟩
      · have whole : framed row <+: start :=
          List.prefix_of_prefix_length_le (List.prefix_append _ _) starts (Nat.not_lt.mp short)
        rcases whole with ⟨rest, rfl⟩
        have fitsLater := fun row member => fits row (List.mem_cons_of_mem _ member)
        rcases hypothesis fitsLater ((List.prefix_append_right_inj _).mp starts) with
          ⟨before, part, begins, rfl, unfinished⟩
        refine ⟨row :: before, part, (List.prefix_cons_inj row).mpr begins, ?_, unfinished⟩
        rw [List.map_cons, List.flatten_cons, List.append_assoc]

theorem prefix_of_flatten_append {more : Bytes} (begins : before <+: rows)
    (alsoBegins : after <+: rows)
    (longer : (after.map framed).flatten = (before.map framed).flatten ++ more) :
    before <+: after := by
  rcases Nat.le_total before.length after.length with fewer | fewer
  · exact List.prefix_of_prefix_length_le begins alsoBegins fewer
  · rcases List.prefix_of_prefix_length_le alsoBegins begins fewer with ⟨rest, rfl⟩
    have lengths := congrArg List.length longer
    simp only [List.map_append, List.flatten_append, List.length_append] at lengths
    by_cases none : rest = []
    · simp [none]
    · have positive := length_flatten_framed_pos none
      omega

/-! ## From one stop to the next -/

theorem Carries.after_fault (carries : Carries (earlier ++ .fault fault :: later) (before ++ after))
    (start : Input.octets earlier = (before.map framed).flatten) : Carries later after := by
  refine ⟨?_, ?_, ?_, ?_⟩
  · intro there
    exact carries.filled (by simp [there])
  · intro fault there
    exact carries.retryable fault (by simp [there])
  · intro row member
    exact carries.fits row (List.mem_append_right _ member)
  · have joined := carries.joined
    rw [Input.octets_append, start, List.map_append, List.flatten_append] at joined
    exact List.append_cancel_left joined

theorem Carries.start (carries : Carries (earlier ++ later) rows) :
    ∃ before part, before <+: rows ∧
      Input.octets earlier = (before.map framed).flatten ++ part ∧ Unfinished part := by
  apply frames_of_prefix carries.fits
  rw [← carries.joined, Input.octets_append]
  exact List.prefix_append _ _

/-- No failure falls within a frame if the first one does not and no later one does. -/
theorem failsBetween_iff (flows : Flows earlier) (stops : fault.kind ≠ .interrupted) :
    FailsBetween (earlier ++ .fault fault :: later) rows ↔
      ∃ before after, rows = before ++ after ∧
        Input.octets earlier = (before.map framed).flatten ∧ FailsBetween later after := by
  constructor
  · intro between
    rcases between earlier fault later rfl stops with ⟨before, ⟨after, rfl⟩, start⟩
    refine ⟨before, after, rfl, start, ?_⟩
    rintro meanwhile other rest rfl otherStops
    rcases between (earlier ++ .fault fault :: meanwhile) other rest (by simp) otherStops with
      ⟨reached, begins, octets⟩
    rw [Input.octets_append, start] at octets
    rcases prefix_of_flatten_append (List.prefix_append _ _) begins octets.symm with
      ⟨more, rfl⟩
    rw [List.map_append, List.flatten_append] at octets
    exact ⟨more, (List.prefix_append_right_inj before).mp begins,
      List.append_cancel_left octets⟩
  · rintro ⟨before, after, rfl, start, between⟩ reached other rest split otherStops
    rcases List.append_eq_append_iff.mp split with ⟨meanwhile, rfl, same⟩ | ⟨lost, rfl, same⟩
    · cases meanwhile with
      | nil => exact ⟨before, List.prefix_append _ _, by simpa using start⟩
      | cons piece meanwhile =>
          rcases List.cons_eq_cons.mp same with ⟨rfl, rfl⟩
          rcases between meanwhile other rest rfl otherStops with ⟨more, begins, octets⟩
          refine ⟨before ++ more, (List.prefix_append_right_inj before).mpr begins, ?_⟩
          rw [Input.octets_append, start, List.map_append, List.flatten_append, ← octets]
          rfl
    · cases lost with
      | nil => exact ⟨before, List.prefix_append _ _, by simpa using start⟩
      | cons piece lost =>
          rcases List.cons_eq_cons.mp same with ⟨rfl, -⟩
          exact absurd (flows.interrupted other (by simp)) otherStops

/-- All frames are read if and only if the first failure falls behind some of them and all others are
read after it. -/
theorem frames_iff (room : maxLength ≤ buffer.length)
    (carries : Carries (earlier ++ .fault fault :: later) rows) (flows : Flows earlier)
    (stops : fault.kind ≠ .interrupted) :
    frames buffer (earlier ++ .fault fault :: later) = (rows, .ok ()) ↔
      ∃ before after, rows = before ++ after ∧
        Input.octets earlier = (before.map framed).flatten ∧
        frames buffer later = (after, .ok ()) := by
  rcases flows.to_fault stops later with ⟨remains, stop⟩
  have again : (Input.stop (earlier ++ .fault fault :: later)).1.isRetryable = true := by
    rw [stop]
    exact carries.retryable fault (by simp)
  constructor
  · intro found
    rcases carries.start with ⟨before, part, ⟨after, rfl⟩, start, unfinished⟩
    have fits := fun row member => carries.fits row (List.mem_append_left after member)
    rw [frames_after_stop fits room unfinished (remains.trans start) again, stop] at found
    rcases Prod.mk.inj found with ⟨reads, ending⟩
    have same : (frames buffer later).1 = after := List.append_cancel_left reads
    -- What is read after the failure is as long as what was to come, so that no part is missing.
    have enough := length_frames_le buffer later
    have lengths := congrArg List.length carries.joined
    rw [Input.octets_append, start] at lengths
    simp only [Input.octets, List.map_append, List.flatten_append, List.length_append] at lengths
    rw [same] at enough
    have nothing : part = [] := List.length_eq_zero_iff.mp (by omega)
    refine ⟨before, after, rfl, ?_, Prod.ext same ending⟩
    rw [start, nothing, List.append_nil]
  · rintro ⟨before, after, rfl, start, found⟩
    have fits := fun row member => carries.fits row (List.mem_append_left after member)
    rw [← List.append_nil (before.map framed).flatten] at start
    rw [frames_after_stop fits room .nil (remains.trans start) again, stop, found]

theorem frames_iff_failsBetween (room : maxLength ≤ buffer.length)
    (carries : Carries input rows) :
    frames buffer input = (rows, .ok ()) ↔ FailsBetween input rows := by
  induction length : input.length using Nat.strongRecOn generalizing input rows with
  | ind count hypothesis =>
      rcases flows_or_fails carries.filled with
        flows | ⟨earlier, fault, later, rfl, flows, stops⟩
      · rcases flows.to_end with ⟨remains, stop⟩
        refine iff_of_true ?_ (flows.failsBetween rows)
        apply frames_to_end carries.fits room (remains.trans carries.joined)
        rw [stop]
        rfl
      · rw [frames_iff room carries flows stops, failsBetween_iff flows stops]
        have shorter : List.length later < count := by
          rw [← length, List.length_append, List.length_cons]
          omega
        refine exists_congr fun before => exists_congr fun after => and_congr_right ?_
        rintro rfl
        apply and_congr_right
        intro start
        exact hypothesis later.length shorter (carries.after_fault start) rfl

end Pipe

namespace State

theorem length_readBuffer : readBuffer.length = Pipe.maxLength := List.length_replicate

theorem takeStream_of_frames {input : Pipe.Input} {reads : List Bytes}
    {ending : Except Pipe.Fault Unit} (found : Pipe.frames readBuffer input = (reads, ending))
    (unhandled : Option Sink) (state : State Session) :
    state.takeStream unhandled false input =
      (reads.foldl (fun state read => state.takeRead unhandled read) state, ending) := by
  simp only [takeStream, found]
  rfl

/-- What was there of a frame before a failure is lost: the server goes on with what comes after the
failure as if a frame began there. -/
theorem takeStream_to_fault {earlier later : Pipe.Input} {fault : Pipe.Fault}
    {before : List Bytes} {part : Bytes} (flows : Pipe.Flows earlier)
    (stops : fault.kind ≠ .interrupted) (again : fault.isRetryable = true)
    (fits : ∀ row ∈ before, Pipe.Fits row)
    (start : Pipe.Input.octets earlier = (before.map Pipe.framed).flatten ++ part)
    (unfinished : Pipe.Unfinished part) (unhandled : Option Sink) (state : State Session) :
    state.takeStream unhandled false (earlier ++ .fault fault :: later) =
      (before.foldl (fun state row => state.takeRead unhandled row) state).takeStream
        unhandled false later := by
  rcases flows.to_fault stops later with ⟨remains, stop⟩
  have found := Pipe.frames_after_stop fits (Nat.le_of_eq length_readBuffer.symm) unfinished
    (remains.trans start) (by rw [stop]; exact again)
  rw [stop] at found
  rw [takeStream_of_frames found, List.foldl_append]
  rfl

end State

/-- Of a stream of frames that only fails so that another try is called for, the server takes every
frame once, whole and in order, and stops without an error at its end, if and only if no failure but
an interruption falls within a frame.  At the first such failure, wherever it falls, the frames
before it have been taken, the octets of a frame in progress are lost, and the server goes on with
what comes after the failure as if a frame began there. -/
theorem takeStream_takes_frames_iff {input : Pipe.Input} {rows : List Bytes}
    (carries : Pipe.Carries input rows) :
    (Pipe.frames State.readBuffer input = (rows, .ok ()) ↔ Pipe.FailsBetween input rows) ∧
      (Pipe.FailsBetween input rows → ∀ unhandled (state : State Session),
        state.takeStream unhandled false input =
          (rows.foldl (fun state row => state.takeRead unhandled row) state, .ok ())) ∧
      (∀ earlier fault later, input = earlier ++ .fault fault :: later → Pipe.Flows earlier →
        fault.kind ≠ .interrupted → ∃ before part, before <+: rows ∧
          Pipe.Input.octets earlier = (before.map Pipe.framed).flatten ++ part ∧
          Pipe.Unfinished part ∧ ∀ unhandled (state : State Session),
            state.takeStream unhandled false input =
              (before.foldl (fun state row => state.takeRead unhandled row) state).takeStream
                unhandled false later) := by
  have room : Pipe.maxLength ≤ State.readBuffer.length :=
    Nat.le_of_eq State.length_readBuffer.symm
  have iff := Pipe.frames_iff_failsBetween room carries
  refine ⟨iff, ?_, ?_⟩
  · intro between unhandled state
    exact State.takeStream_of_frames (iff.mpr between) unhandled state
  · rintro earlier fault later rfl flows stops
    rcases carries.start with ⟨before, part, ⟨after, rfl⟩, start, unfinished⟩
    have again := carries.retryable fault (by simp)
    have fits := fun row member => carries.fits row (List.mem_append_left after member)
    exact ⟨before, part, List.prefix_append _ _, start, unfinished,
      State.takeStream_to_fault flows stops again fits start unfinished⟩

namespace Sample

/-- A datagram without a payload. -/
def bare : Bytes := 0x60 :: List.replicate 39 0

/-- The fault of a device that has nothing to give at the moment. -/
def notReady : Pipe.Fault := .device .wouldBlock "scripted"

/-- Two frames, with a pause between them and an interruption within the second. -/
def pausedStream : Pipe.Input :=
  [.octets (Pipe.framed bare), .fault notReady, .octets [0x00],
    .fault (.device .interrupted "scripted"), .octets (0x28 :: bare)]

/-- One frame, with a pause between the two octets of its length. -/
def brokenStream : Pipe.Input := [.octets [0x00], .fault notReady, .octets (0x28 :: bare)]

theorem fits_bare : Pipe.Fits bare := ⟨by decide, by decide⟩

theorem isWhole_bare : Datagram.IsWhole bare := rfl

theorem carries_pausedStream : Pipe.Carries pausedStream [bare, bare] := by
  refine ⟨?_, ?_, ?_, rfl⟩
  · simp [pausedStream, Pipe.framed, bare]
  · simp [pausedStream, notReady, Pipe.Fault.isRetryable, Pipe.Fault.kind]
  · simp [fits_bare]

theorem carries_brokenStream : Pipe.Carries brokenStream [bare] := by
  refine ⟨?_, ?_, ?_, rfl⟩
  · simp [brokenStream]
  · simp [brokenStream, notReady, Pipe.Fault.isRetryable, Pipe.Fault.kind]
  · simp [fits_bare]

theorem failsBetween_pausedStream : Pipe.FailsBetween pausedStream [bare, bare] := by
  have flows : Pipe.Flows [.octets (Pipe.framed bare)] := ⟨by simp [Pipe.framed, bare], by simp⟩
  have flowsOn : Pipe.Flows [.octets [0x00], .fault (.device .interrupted "scripted"),
      .octets (0x28 :: bare)] := ⟨by simp, by simp [Pipe.Fault.kind]⟩
  have stops : notReady.kind ≠ .interrupted := by decide
  apply (Pipe.failsBetween_iff flows stops).mpr
  exact ⟨[bare], [bare], rfl, rfl, flowsOn.failsBetween [bare]⟩

end Sample

theorem takeStream_takes_frames_paused :
    Pipe.Carries Sample.pausedStream [Sample.bare, Sample.bare] ∧
      Pipe.FailsBetween Sample.pausedStream [Sample.bare, Sample.bare] ∧
      ∀ unhandled (state : State Session),
        state.takeStream unhandled false Sample.pausedStream =
          ((state.takeRead unhandled Sample.bare).takeRead unhandled Sample.bare, .ok ()) := by
  have between := Sample.failsBetween_pausedStream
  exact ⟨Sample.carries_pausedStream, between,
    (takeStream_takes_frames_iff Sample.carries_pausedStream).2.1 between⟩

/-- A frame whose length is cut in two by a pause is not taken, and reading ends with an error,
although the server would have dealt with what the frame holds. -/
theorem takeStream_loses_frame :
    Pipe.Carries Sample.brokenStream [Sample.bare] ∧ Datagram.IsWhole Sample.bare ∧
      Sample.empty.takeStream none false Sample.brokenStream =
        (Sample.empty, .error .endedEarly) ∧
      (Sample.empty.takeRead none Sample.bare).counters.noRouteDrops = 1 := by
  refine ⟨Sample.carries_brokenStream, Sample.isWhole_bare, ?_, ?_⟩
  · have flows : Pipe.Flows [.octets [0x00]] := ⟨by simp, by simp⟩
    have unfinished : Pipe.Unfinished [0x00] :=
      ⟨Sample.bare, Sample.fits_bare, by decide, by decide⟩
    have stops : Sample.notReady.kind ≠ .interrupted := by decide
    have lost : Sample.empty.takeStream none false Sample.brokenStream =
        Sample.empty.takeStream none false [.octets (0x28 :: Sample.bare)] :=
      State.takeStream_to_fault flows stops rfl (List.forall_mem_nil _) rfl unfinished none
        Sample.empty
    rw [lost]
    have failed : (Pipe.readFrame State.readBuffer [.octets (0x28 :: Sample.bare)]).result =
        .error .endedEarly := by
      have decoded : Pipe.decodeLength [0x28, 0x60] State.readBuffer.length = .ok 10336 := by
        have number : BigEndian.decode [0x28, 0x60] = 10336 := rfl
        simp only [Pipe.decodeLength, State.length_readBuffer, number]
        exact if_neg (by decide)
      have few : (Pipe.Input.remaining [.octets (List.replicate 39 0)]).length < 10336 := by decide
      exact Pipe.readFrame_of_fault rfl decoded (congrArg Pipe.Fill.fault (Pipe.fill_of_lt few))
    rw [State.takeStream_of_frames ((Pipe.frames_of_fault failed).trans (if_neg (by decide)))]
    rfl
  · have row : Datagram.IsRow [Sample.bare] Sample.bare :=
      ⟨by simp, by simpa using Sample.isWhole_bare, by simp⟩
    rw [State.takeRead_of_isRow row]
    rfl

end TunnelServer
