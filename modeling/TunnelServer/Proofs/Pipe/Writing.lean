import TunnelServer.Pipe.Output
import TunnelServer.Proofs.Pipe.Reading

/-!
# What a writer takes

Datagrams are written frame by frame to a writer that may take few octets at a call and not more than so
many in all.  How many it takes at a call makes no difference: it ends up with the frames one after the
other, as far as its room reaches, and a frame that does not end within the room is reported.  A datagram
that has no frame leaves no trace between those that have one, and a flush that fails takes nothing back.
-/

namespace TunnelServer.Pipe

/-- The frames of those datagrams that are short enough to have one, one after the other. -/
def framesOf (datagrams : List Bytes) : Bytes :=
  ((datagrams.filter fun datagram => datagram.length ≤ maxLength).map framed).flatten

variable {datagram : Bytes} {datagrams : List Bytes}

theorem framesOf_append (earlier later : List Bytes) :
    framesOf (earlier ++ later) = framesOf earlier ++ framesOf later := by
  simp [framesOf]

theorem framesOf_of_small (small : datagram.length ≤ maxLength) :
    framesOf [datagram] = framed datagram := by
  simp [framesOf, small]

theorem framesOf_of_large (large : maxLength < datagram.length) : framesOf [datagram] = [] := by
  simp [framesOf, large]

theorem frame_of_large (large : maxLength < datagram.length) :
    frame datagram = .error (.lengthOverflow datagram.length) := by
  rw [frame, encodeLength, if_neg (Nat.not_le.mpr large)]
  rfl

namespace Output

variable {output before middle after : Output} {octets piece rest : Bytes}

/-- Writes the frames of datagrams, one after the other. -/
def writeEach : List Bytes → Output → List (Except Fault Unit) × Output
  | [], output => ([], output)
  | datagram :: rest, output =>
    let first := output.writeFrame datagram
    let later := writeEach rest first.2
    (first.1 :: later.1, later.2)

/-- As much of some octets as there is room for. -/
def fitting (output : Output) (octets : Bytes) : Bytes := output.room.elim octets octets.take

/-- What is answered to a datagram whose frame, if it has one, ends at a place in all that is to be
written. -/
def answer (output : Output) (place : Nat) (datagram : Bytes) : Except Fault Unit :=
  if maxLength < datagram.length then .error (.noFrame (.lengthOverflow datagram.length))
  else if output.room.any (· < place) then .error .nothingTaken
  else output.flushFault.elim (.ok ()) .error

/-- A writer once it has taken some octets more. -/
structure Took (before : Output) (octets : Bytes) (after : Output) : Prop where
  stream : after.stream = before.stream ++ octets
  room : after.room = before.room.map (· - octets.length)
  perCall : after.perCall = before.perCall
  flushFault : after.flushFault = before.flushFault

@[simp]
theorem stream_take (output : Output) (octets : Bytes) :
    (output.take octets).stream = output.stream ++ octets := by
  simp [stream, take]

namespace Took

theorem nothing (output : Output) : output.Took [] output := by
  refine ⟨?_, ?_, rfl, rfl⟩
  · simp
  · simp

theorem take (output : Output) (octets : Bytes) : output.Took octets (output.take octets) :=
  ⟨stream_take output octets, rfl, rfl, rfl⟩

theorem trans (first : before.Took octets middle) (second : middle.Took rest after) :
    before.Took (octets ++ rest) after := by
  refine ⟨?_, ?_, second.perCall.trans first.perCall, second.flushFault.trans first.flushFault⟩
  · rw [second.stream, first.stream, List.append_assoc]
  · rw [second.room, first.room, Option.map_map]
    congr 1
    funext room
    simp only [Function.comp_apply, List.length_append]
    omega

end Took

/-! ## One call -/

/-- A call takes octets from the front of those offered. -/
theorem accepts_append_drop (output : Output) (octets : Bytes) :
    output.accepts octets ++ octets.drop (output.accepts octets).length = octets := by
  apply List.prefix_iff_eq_append.mp
  simp only [accepts]
  cases output.perCall with
  | none =>
      cases output.room with
      | none => exact List.prefix_rfl
      | some room => exact List.take_prefix room octets
  | some most =>
      cases output.room with
      | none => exact List.take_prefix most octets
      | some room => exact (List.take_prefix room _).trans (List.take_prefix most octets)

theorem length_accepts_le {room : Nat} (limited : output.room = some room) (octets : Bytes) :
    (output.accepts octets).length ≤ room := by
  simp only [accepts, limited, Option.elim_some]
  exact List.length_take_le room _

/-- A call that takes nothing shows that there is no more room. -/
theorem room_of_accepts (takes : output.perCall ≠ some 0) (more : octets ≠ [])
    (stuck : output.accepts octets = []) : output.room = some 0 := by
  simp only [accepts] at stuck
  cases limit : output.perCall with
  | none =>
      cases limited : output.room with
      | none => simp [limit, limited, more] at stuck
      | some room => simpa [limit, limited, more] using stuck
  | some most =>
      have positive : most ≠ 0 := by
        rintro rfl
        exact takes limit
      cases limited : output.room with
      | none => simp [limit, limited, more, positive] at stuck
      | some room => simpa [limit, limited, more, positive] using stuck

/-! ## Call after call -/

@[simp]
theorem fitting_nil (output : Output) : output.fitting [] = [] := by
  cases room : output.room <;> simp [fitting, room]

/-- What fits of two strings of octets is what fits of the first, and what then fits of the second. -/
theorem Took.fitting_append (first : before.Took (before.fitting octets) middle) (rest : Bytes) :
    before.fitting (octets ++ rest) = before.fitting octets ++ middle.fitting rest := by
  have room := first.room
  simp only [fitting] at room ⊢
  cases limited : before.room with
  | none =>
      rw [limited] at room
      simp only [room, Option.map_none, Option.elim_none]
  | some left =>
      rw [limited] at room
      simp only [room, Option.map_some, Option.elim_some, List.take_append, List.length_take]
      congr 2
      omega

theorem fitting_accepts (output : Output) (octets : Bytes) :
    output.fitting (output.accepts octets) = output.accepts octets := by
  simp only [fitting]
  cases limited : output.room with
  | none => rfl
  | some room => exact List.take_of_length_le (length_accepts_le limited octets)

/-- What fits of some octets is what one call takes of them, and what then fits of the others. -/
theorem fitting_eq (output : Output) (octets : Bytes) :
    output.fitting octets = output.accepts octets ++
      (output.take (output.accepts octets)).fitting
        (octets.drop (output.accepts octets).length) := by
  have first : output.Took (output.fitting (output.accepts octets))
      (output.take (output.accepts octets)) := by
    rw [fitting_accepts]
    exact .take output _
  conv => lhs; rw [← accepts_append_drop output octets]
  rw [first.fitting_append, fitting_accepts]

/-- Octets are taken as far as there is room, and it is reported if that does not reach to their end. -/
theorem writeAll_eq (takes : output.perCall ≠ some 0) (octets : Bytes) :
    output.Took (output.fitting octets) (output.writeAll octets).2 ∧
      (output.writeAll octets).1 =
        if output.room.any (· < octets.length) then .error .nothingTaken else .ok () := by
  fun_induction writeAll output octets with
  | case1 output =>
      rw [fitting_nil]
      refine ⟨.nothing output, ?_⟩
      simp
  | case2 output octets more piece stuck =>
      have full := room_of_accepts takes more stuck
      have none : output.fitting octets = [] := by
        simp only [fitting, full, Option.elim_some, List.take_zero]
      rw [none, full]
      refine ⟨.nothing output, ?_⟩
      simp [List.length_pos_iff.mpr more]
  | case3 output octets more piece filled shorter hypothesis =>
      rcases hypothesis takes with ⟨took, answered⟩
      rw [fitting_eq]
      refine ⟨(Took.take output piece).trans took, ?_⟩
      rw [answered]
      cases limited : output.room with
      | none => simp [take, limited]
      | some room =>
          have within := length_accepts_le limited octets
          have longer := congrArg List.length (accepts_append_drop output octets)
          simp only [List.length_append] at longer
          simp only [take, limited, Option.map_some, Option.any_some, decide_eq_true_eq]
          congr 1
          simp only [piece, eq_iff_iff]
          omega

theorem writeFrame_of_large (large : maxLength < datagram.length) :
    output.writeFrame datagram =
      (.error (.noFrame (.lengthOverflow datagram.length)), output) := by
  simp only [writeFrame, frame_of_large large]

/-- One datagram adds what fits of its frame, and is answered by the place at which that ends. -/
theorem writeFrame_eq (takes : output.perCall ≠ some 0) (datagram : Bytes) :
    output.Took (output.fitting (framesOf [datagram])) (output.writeFrame datagram).2 ∧
      (output.writeFrame datagram).1 =
        output.answer (framesOf [datagram]).length datagram := by
  by_cases large : maxLength < datagram.length
  · rw [writeFrame_of_large large, framesOf_of_large large, fitting_nil, answer, if_pos large]
    exact ⟨.nothing output, rfl⟩
  · have small := Nat.le_of_not_lt large
    rcases writeAll_eq takes (framed datagram) with ⟨took, answered⟩
    rw [framesOf_of_small small, answer, if_neg large, ← took.flushFault]
    simp only [writeFrame, frame_of_small small]
    generalize output.writeAll (framed datagram) = written at took answered ⊢
    rcases written with ⟨result, after⟩
    by_cases cut : output.room.any (· < (framed datagram).length)
    · rw [if_pos cut] at answered ⊢
      cases answered
      exact ⟨took, rfl⟩
    · rw [if_neg cut] at answered ⊢
      cases answered
      exact ⟨took, rfl⟩

/-! ## Datagram after datagram -/

/-- What is answered to a later datagram depends on all the octets before it. -/
theorem Took.answer_eq (first : before.Took (before.fitting octets) middle) {place : Nat}
    (behind : datagram.length ≤ maxLength → 0 < place) :
    middle.answer place datagram = before.answer (octets.length + place) datagram := by
  by_cases large : maxLength < datagram.length
  · simp only [answer, if_pos large]
  · have behind := behind (Nat.le_of_not_lt large)
    simp only [answer, if_neg large, first.room, first.flushFault]
    congr 1
    cases limited : before.room with
    | none => rfl
    | some room =>
        simp only [fitting, limited, Option.map_some, Option.elim_some, Option.any_some,
          List.length_take, decide_eq_true_eq, eq_iff_iff]
        omega

theorem length_framesOf_pos {index : Nat} (bound : index < datagrams.length)
    (small : datagrams[index].length ≤ maxLength) :
    0 < (framesOf (datagrams.take (index + 1))).length := by
  rw [List.take_add_one, framesOf_append, List.getElem?_eq_getElem bound, Option.toList_some,
    framesOf_of_small small, List.length_append, length_framed, lengthOctets]
  omega

theorem writeEach_eq (takes : output.perCall ≠ some 0) (datagrams : List Bytes) :
    output.Took (output.fitting (framesOf datagrams)) (output.writeEach datagrams).2 ∧
      (output.writeEach datagrams).1 = datagrams.mapIdx fun index datagram =>
        output.answer (framesOf (datagrams.take (index + 1))).length datagram := by
  induction datagrams generalizing output with
  | nil =>
      rw [show framesOf [] = [] from rfl, fitting_nil]
      exact ⟨.nothing output, rfl⟩
  | cons datagram rest hypothesis =>
      rcases writeFrame_eq takes datagram with ⟨first, answered⟩
      have takesMore : (output.writeFrame datagram).2.perCall ≠ some 0 := by
        rw [first.perCall]
        exact takes
      rcases hypothesis takesMore with ⟨later, answers⟩
      constructor
      · rw [← List.singleton_append, framesOf_append, first.fitting_append]
        exact first.trans later
      · rw [List.mapIdx_cons]
        simp only [writeEach, answered, answers, List.take_succ_cons, List.take_zero,
          List.cons.injEq, true_and]
        apply List.mapIdx_eq_mapIdx_iff.mpr
        intro index bound
        rw [← List.singleton_append, framesOf_append, List.length_append]
        exact first.answer_eq (length_framesOf_pos bound)

/-- Datagrams are written to a writer that takes some octets at every call until it has no more room.  It
ends up with as much of their frames, one after the other, as it had room for, however few it takes at a
call.  A datagram that is too long for a frame is refused as `invalidInput` and leaves the writer as it
is; any other one is answered by `writeZero` if its frame does not end within the room, by the fault of
the flush if there is one, and by success otherwise. -/
theorem frames_are_written_while_there_is_room {output : Output}
    (takes : output.perCall ≠ some 0) (datagrams : List Bytes) :
    (output.writeEach datagrams).2.stream =
        output.stream ++ output.room.elim (framesOf datagrams) (framesOf datagrams).take ∧
      ((output.writeEach datagrams).1 = datagrams.mapIdx fun index datagram =>
        output.answer (framesOf (datagrams.take (index + 1))).length datagram) ∧
      ∀ datagram : Bytes, maxLength < datagram.length →
        (output.writeFrame datagram).2 = output := by
  rcases writeEach_eq takes datagrams with ⟨took, answers⟩
  refine ⟨took.stream, answers, ?_⟩
  intro datagram large
  rw [writeFrame_of_large large]

/-- A writer with room for five octets takes two at a time: all of one frame and two octets of another.
Of the datagram between the two, which is too long, it does not hear. -/
theorem frames_are_written_while_there_is_room_for_five :
    let output : Output := ⟨some 2, some 5, none, []⟩
    let datagrams : List Bytes := [[0x60], List.replicate 65536 0, [0x61, 0x62]]
    output.perCall ≠ some 0 ∧
      (output.writeEach datagrams).2.stream = [0x00, 0x01, 0x60, 0x00, 0x02] ∧
      (output.writeEach datagrams).1 =
        [.ok (), .error (.noFrame (.lengthOverflow 65536)), .error .nothingTaken] := by
  have large : (List.replicate 65536 (0 : UInt8)).length = 65536 := List.length_replicate
  generalize List.replicate 65536 (0 : UInt8) = long at large ⊢
  intro output datagrams
  have takes : output.perCall ≠ some 0 := by simp [output]
  rcases frames_are_written_while_there_is_room takes datagrams with ⟨stream, answers, -⟩
  refine ⟨takes, ?_, ?_⟩
  · rw [stream]
    have frames : framesOf datagrams = [0x00, 0x01, 0x60, 0x00, 0x02, 0x61, 0x62] := by
      simp [datagrams, large, framesOf, maxLength, framed, lengthOctets, BigEndian.encode]
    rw [frames]
    rfl
  · rw [answers]
    simp [datagrams, large, output, answer, framesOf, maxLength, lengthOctets]

end Output

end TunnelServer.Pipe
