import TunnelServer.Datagram

/-!
# What a row of datagrams is

A local read is cut into datagrams exactly if it is a concatenation of whole ones, and then those are
the pieces.  A datagram is measured by its header alone, so that what follows it in the row makes no
difference to where it ends.
-/

namespace TunnelServer.Datagram

/-- Octets are these datagrams back to back: one or more of them, and all whole. -/
structure IsRow (datagrams : List Bytes) (bytes : Bytes) : Prop where
  some : datagrams ≠ []
  whole : ∀ datagram ∈ datagrams, IsWhole datagram
  joined : datagrams.flatten = bytes

theorem headerLength_le_of_isWhole {datagram : Bytes} (whole : IsWhole datagram) :
    headerLength ≤ datagram.length :=
  (headerLength_le_of_measure whole).2

theorem ne_nil_of_isWhole {datagram : Bytes} (whole : IsWhole datagram) : datagram ≠ [] := by
  rintro rfl
  have enough := headerLength_le_of_isWhole whole
  simp [headerLength] at enough

theorem measure_append {datagram : Bytes} (rest : Bytes)
    (enough : headerLength ≤ datagram.length) :
    measure (datagram ++ rest) = measure datagram := by
  rcases datagram with _ | ⟨first, others⟩
  · simp [headerLength] at enough
  · have field : ((first :: others ++ rest).drop 4).take 2 = ((first :: others).drop 4).take 2 := by
      simp only [headerLength] at enough
      rw [List.drop_append_of_le_length (by omega)]
      apply List.take_append_of_le_length
      rw [List.length_drop]
      omega
    have long : ¬(first :: others ++ rest).length < headerLength := by
      rw [List.length_append]
      omega
    simp only [measure, payloadLength?, field, if_neg long, if_neg (Nat.not_lt.mpr enough)]
    rfl

theorem isWhole_take {bytes : Bytes} {length : Nat} (measured : measure bytes = .ok length)
    (there : length ≤ bytes.length) : IsWhole (bytes.take length) := by
  have cut : (bytes.take length).length = length := List.length_take_of_le there
  have enough : headerLength ≤ (bytes.take length).length := by
    rw [cut]
    exact (headerLength_le_of_measure measured).1
  rw [IsWhole, cut, ← measure_append (bytes.drop length) enough, List.take_append_drop]
  exact measured

theorem isRow_of_split {bytes : Bytes} {datagrams : List Bytes}
    (cut : split bytes = .ok datagrams) : IsRow datagrams bytes := by
  fun_induction split bytes generalizing datagrams with
  | case1 bytes error measured => cases cut
  | case2 bytes length measured short => cases cut
  | case3 bytes length measured there last =>
      cases cut
      have whole := isWhole_take measured (Nat.not_lt.mp there)
      refine ⟨by simp, by simpa using whole, ?_⟩
      rw [List.flatten_singleton]
      apply List.take_of_length_le
      exact List.drop_eq_nil_iff.mp last
  | case4 bytes length measured there more shorter error failed hypothesis => cases cut
  | case5 bytes length measured there more shorter rest found hypothesis =>
      cases cut
      have row := hypothesis found
      refine ⟨by simp, ?_, ?_⟩
      · intro datagram member
        rcases List.mem_cons.mp member with rfl | later
        · exact isWhole_take measured (Nat.not_lt.mp there)
        · exact row.whole datagram later
      · rw [List.flatten_cons, row.joined, List.take_append_drop]

theorem split_flatten {datagrams : List Bytes} (some : datagrams ≠ [])
    (whole : ∀ datagram ∈ datagrams, IsWhole datagram) :
    split datagrams.flatten = .ok datagrams := by
  induction datagrams with
  | nil => exact absurd rfl some
  | cons datagram rest hypothesis =>
      have first : IsWhole datagram := whole datagram (by simp)
      have measured : measure (datagram ++ rest.flatten) = .ok datagram.length := by
        rw [measure_append _ (headerLength_le_of_isWhole first)]
        exact first
      have there : ¬(datagram ++ rest.flatten).length < datagram.length := by simp
      rw [List.flatten_cons, split.eq_def]
      split
      · rename_i error refused
        rw [measured] at refused
        cases refused
      · rename_i length found
        rw [measured] at found
        cases found
        rw [if_neg there]
        simp only [List.drop_left, List.take_left]
        rcases rest with _ | ⟨second, others⟩
        · simp
        · have tail : ∀ datagram ∈ second :: others, IsWhole datagram := by
            intro later member
            exact whole later (by simp [member])
          have more : (second :: others).flatten ≠ [] := by
            simp [ne_nil_of_isWhole (tail second (by simp))]
          rw [if_neg more, hypothesis (by simp) tail]

/-- Octets fall into datagrams if and only if they are a row of just those. -/
theorem split_eq_ok_iff {bytes : Bytes} {datagrams : List Bytes} :
    split bytes = .ok datagrams ↔ IsRow datagrams bytes := by
  constructor
  · exact isRow_of_split
  · rintro ⟨some, whole, rfl⟩
    exact split_flatten some whole

instance (bytes : Bytes) : Decidable (∃ datagrams, IsRow datagrams bytes) :=
  decidable_of_iff (split bytes).isOk (by
    simp only [← split_eq_ok_iff]
    cases split bytes <;> simp [Except.isOk, Except.toBool])

end TunnelServer.Datagram
