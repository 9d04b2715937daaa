import TunnelServer.Proofs.Splitting

/-!
# How octets are cut into datagrams

The rules for cutting octets are laid down on their own, as a relation that reads the three fields of
a datagram's header straight from its octets.  Splitting is shown to go by these rules.  It accepts
exactly the rows of well-formed datagrams; anything else it refuses for what stands after the longest
row of well-formed datagrams at the start.
-/

namespace TunnelServer.Datagram

/-- The number in the length field: how many octets follow the fixed header. -/
def declared (bytes : Bytes) : Nat := 256 * (bytes.getD 4 0).toNat + (bytes.getD 5 0).toNat

/-- Octets are one IPv6 datagram: they have room for the fixed header, the version is 6, and what
follows the header is as long as the length field says. -/
structure WellFormed (datagram : Bytes) : Prop where
  header : 40 ≤ datagram.length
  version : Nibble.high (datagram.headD 0) = 6
  length : datagram.length = 40 + declared datagram

/-- Why octets do not start with a datagram, with what was found. -/
inductive Refused (bytes : Bytes) : FramingError → Prop where
  | tooShort (short : bytes.length < 40) : Refused bytes (.tooShort bytes.length)
  | notIpv6 (header : 40 ≤ bytes.length) (version : Nibble.high (bytes.headD 0) ≠ 6) :
      Refused bytes (.notIpv6 (Nibble.high (bytes.headD 0)))
  | truncated (header : 40 ≤ bytes.length) (version : Nibble.high (bytes.headD 0) = 6)
      (short : bytes.length < 40 + declared bytes) :
      Refused bytes (.truncated (40 + declared bytes) bytes.length)

/-- The rules for cutting octets: what does not start with a datagram is refused, a datagram with
nothing after it is the last one, and what comes after a datagram is cut by the same rules. -/
inductive Cuts : Bytes → Except FramingError (List Bytes) → Prop where
  | refused {bytes : Bytes} {error : FramingError} (refused : Refused bytes error) :
      Cuts bytes (.error error)
  | last {bytes : Bytes} (header : 40 ≤ bytes.length) (version : Nibble.high (bytes.headD 0) = 6)
      (fits : bytes.length = 40 + declared bytes) : Cuts bytes (.ok [bytes])
  | more {bytes : Bytes} {result : Except FramingError (List Bytes)} (header : 40 ≤ bytes.length)
      (version : Nibble.high (bytes.headD 0) = 6) (longer : 40 + declared bytes < bytes.length)
      (later : Cuts (bytes.drop (40 + declared bytes)) result) :
      Cuts bytes (result.map (bytes.take (40 + declared bytes) :: ·))

/-- Octets start with well-formed datagrams, and something else, or nothing, follows them. -/
structure Leads (datagrams : List Bytes) (rest bytes : Bytes) : Prop where
  whole : ∀ datagram ∈ datagrams, WellFormed datagram
  joined : datagrams.flatten ++ rest = bytes

/-- There is no longer row of well-formed datagrams at the start of these octets. -/
structure LeadsLongest (datagrams : List Bytes) (rest bytes : Bytes) : Prop
    extends Leads datagrams rest bytes where
  longest : ∀ others remainder, Leads others remainder bytes → others.length ≤ datagrams.length

variable {bytes rest : Bytes} {datagram : Bytes} {datagrams : List Bytes} {error : FramingError}

/-! ## The fields of the header -/

theorem payloadLength?_of_long (header : 40 ≤ bytes.length) :
    payloadLength? bytes = some (declared bytes) := by
  rcases bytes with _ | ⟨_, _ | ⟨_, _ | ⟨_, _ | ⟨_, _ | ⟨high, _ | ⟨low, rest⟩⟩⟩⟩⟩⟩
  all_goals simp only [List.length_nil, List.length_cons] at header
  any_goals omega
  simp [payloadLength?, declared, BigEndian.decode, Nat.mul_comm]

theorem measure_of_short (short : bytes.length < 40) :
    measure bytes = .error (.tooShort bytes.length) :=
  if_pos short

theorem measure_of_other_version (header : 40 ≤ bytes.length)
    (version : Nibble.high (bytes.headD 0) ≠ 6) :
    measure bytes = .error (.notIpv6 (Nibble.high (bytes.headD 0))) := by
  simp only [measure, headerLength, Nat.not_lt.mpr header, if_false, if_pos version]

theorem measure_of_version (header : 40 ≤ bytes.length)
    (version : Nibble.high (bytes.headD 0) = 6) : measure bytes = .ok (40 + declared bytes) := by
  simp only [measure, headerLength, Nat.not_lt.mpr header, if_false, version, ne_eq,
    not_true_eq_false, payloadLength?_of_long header, Option.getD_some]

theorem measure_eq_ok_iff {length : Nat} :
    measure bytes = .ok length ↔
      40 ≤ bytes.length ∧ Nibble.high (bytes.headD 0) = 6 ∧ length = 40 + declared bytes := by
  by_cases header : 40 ≤ bytes.length
  · by_cases version : Nibble.high (bytes.headD 0) = 6
    · simp only [measure_of_version header version, header, version, Except.ok.injEq, true_and]
      exact eq_comm
    · simp only [measure_of_other_version header version, version, reduceCtorEq, false_and,
        and_false]
  · simp [measure_of_short (Nat.not_le.mp header), header]

theorem refused_of_measure (failed : measure bytes = .error error) : Refused bytes error := by
  by_cases header : 40 ≤ bytes.length
  · by_cases version : Nibble.high (bytes.headD 0) = 6
    · rw [measure_of_version header version] at failed
      cases failed
    · rw [measure_of_other_version header version] at failed
      cases failed
      exact .notIpv6 header version
  · rw [measure_of_short (Nat.not_le.mp header)] at failed
    cases failed
    exact .tooShort (Nat.not_le.mp header)

theorem isWhole_iff_wellFormed : IsWhole datagram ↔ WellFormed datagram := by
  rw [IsWhole, measure_eq_ok_iff]
  constructor
  · rintro ⟨header, version, length⟩
    exact ⟨header, version, length⟩
  · rintro ⟨header, version, length⟩
    exact ⟨header, version, length⟩

theorem isRow_iff_leads : IsRow datagrams bytes ↔ datagrams ≠ [] ∧ Leads datagrams [] bytes := by
  constructor
  · rintro ⟨filled, whole, joined⟩
    refine ⟨filled, ?_, by rw [List.append_nil, joined]⟩
    intro datagram member
    exact isWhole_iff_wellFormed.mp (whole datagram member)
  · rintro ⟨filled, whole, joined⟩
    refine ⟨filled, ?_, by rw [← joined, List.append_nil]⟩
    intro datagram member
    exact isWhole_iff_wellFormed.mpr (whole datagram member)

/-- Where a datagram ends is written in its header, so what follows makes no difference. -/
theorem WellFormed.measure_append (whole : WellFormed datagram) (rest : Bytes) :
    measure (datagram ++ rest) = .ok datagram.length := by
  rw [Datagram.measure_append rest whole.header]
  exact isWhole_iff_wellFormed.mpr whole

theorem WellFormed.not_refused (whole : WellFormed datagram) (rest : Bytes) :
    ¬Refused (datagram ++ rest) error := by
  rcases measure_eq_ok_iff.mp (whole.measure_append rest) with ⟨header, version, length⟩
  rintro (⟨short⟩ | ⟨-, other⟩ | ⟨-, -, cut⟩)
  · exact absurd short (Nat.not_lt.mpr header)
  · exact other version
  · rw [← length, List.length_append] at cut
    omega

/-! ## Splitting goes by the rules -/

theorem cuts_split (bytes : Bytes) : Cuts bytes (split bytes) := by
  fun_induction split bytes with
  | case1 bytes error failed => exact .refused (refused_of_measure failed)
  | case2 bytes length measured short =>
      rcases measure_eq_ok_iff.mp measured with ⟨header, version, rfl⟩
      exact .refused (.truncated header version short)
  | case3 bytes length measured there last =>
      rcases measure_eq_ok_iff.mp measured with ⟨header, version, rfl⟩
      have fits : bytes.length ≤ 40 + declared bytes := List.drop_eq_nil_iff.mp last
      rw [List.take_of_length_le fits]
      exact .last header version (Nat.le_antisymm fits (Nat.not_lt.mp there))
  | case4 bytes length measured there more shorter error failed hypothesis =>
      rcases measure_eq_ok_iff.mp measured with ⟨header, version, rfl⟩
      rw [failed] at hypothesis
      have longer := Nat.not_le.mp (mt List.drop_eq_nil_iff.mpr more)
      exact .more header version longer hypothesis
  | case5 bytes length measured there more shorter datagrams found hypothesis =>
      rcases measure_eq_ok_iff.mp measured with ⟨header, version, rfl⟩
      rw [found] at hypothesis
      have longer := Nat.not_le.mp (mt List.drop_eq_nil_iff.mpr more)
      exact .more header version longer hypothesis

theorem split_of_measure_error (failed : measure bytes = .error error) :
    split bytes = .error error := by
  rw [split.eq_def]
  split
  · rename_i other found
    cases found.symm.trans failed
    rfl
  · rename_i length measured
    cases failed.symm.trans measured

theorem split_of_measure_ok {length : Nat} (measured : measure bytes = .ok length) :
    split bytes =
      if bytes.length < length then .error (.truncated length bytes.length)
      else if bytes.drop length = [] then .ok [bytes.take length]
      else (split (bytes.drop length)).map (bytes.take length :: ·) := by
  conv => lhs; rw [split.eq_def]
  split
  · rename_i error failed
    cases measured.symm.trans failed
  · rename_i other found
    cases measured.symm.trans found
    cases split (bytes.drop length) <;> rfl

theorem Cuts.split_eq {result : Except FramingError (List Bytes)} (cuts : Cuts bytes result) :
    split bytes = result := by
  induction cuts with
  | refused refused =>
      cases refused with
      | tooShort short => exact split_of_measure_error (measure_of_short short)
      | notIpv6 header version =>
          exact split_of_measure_error (measure_of_other_version header version)
      | truncated header version short =>
          rw [split_of_measure_ok (measure_of_version header version), if_pos short]
  | last header version fits =>
      rw [split_of_measure_ok (measure_of_version header version), ← fits]
      simp
  | more header version longer _ hypothesis =>
      have rest : ¬List.drop (40 + declared _) _ = [] :=
        mt List.drop_eq_nil_iff.mp (Nat.not_le.mpr longer)
      rw [split_of_measure_ok (measure_of_version header version),
        if_neg (Nat.lt_asymm longer), if_neg rest, hypothesis]

theorem split_eq_iff_cuts {result : Except FramingError (List Bytes)} :
    split bytes = result ↔ Cuts bytes result := by
  constructor
  · rintro rfl
    exact cuts_split bytes
  · exact Cuts.split_eq

/-! ## What is refused -/

namespace Leads

theorem nil : Leads [] bytes bytes := ⟨by simp, rfl⟩

theorem cons {remainder : Bytes} (leads : Leads datagrams remainder rest)
    (whole : WellFormed datagram) : Leads (datagram :: datagrams) remainder (datagram ++ rest) := by
  refine ⟨?_, by rw [List.flatten_cons, List.append_assoc, leads.joined]⟩
  intro other member
  rcases List.mem_cons.mp member with rfl | member
  · exact whole
  · exact leads.whole other member

theorem of_cons (leads : Leads (datagram :: datagrams) rest bytes) :
    WellFormed datagram ∧ Leads datagrams rest (datagrams.flatten ++ rest) ∧
      datagram ++ (datagrams.flatten ++ rest) = bytes := by
  refine ⟨leads.whole datagram List.mem_cons_self, ⟨?_, rfl⟩, ?_⟩
  · intro other member
    exact leads.whole other (List.mem_cons_of_mem datagram member)
  · rw [← List.append_assoc, ← List.flatten_cons, leads.joined]

theorem length_mul_le (leads : Leads datagrams rest bytes) :
    40 * datagrams.length ≤ bytes.length := by
  induction datagrams generalizing bytes with
  | nil => exact Nat.zero_le _
  | cons datagram later hypothesis =>
      rcases leads.of_cons with ⟨whole, leadsLater, rfl⟩
      have others := hypothesis leadsLater
      have header := whole.header
      rw [List.length_cons, List.length_append]
      omega

end Leads

/-- What stands after a row of datagrams starts with no datagram, so the row is the longest. -/
theorem Leads.length_le {others : List Bytes} {remainder : Bytes}
    (leads : Leads datagrams rest bytes) (refused : Refused rest error)
    (also : Leads others remainder bytes) : others.length ≤ datagrams.length := by
  induction datagrams generalizing bytes others with
  | nil =>
      cases others with
      | nil => exact Nat.le_refl _
      | cons other others =>
          rcases also.of_cons with ⟨whole, -, joined⟩
          have start : rest = bytes := leads.joined
          rw [start, ← joined] at refused
          exact absurd refused (whole.not_refused _)
  | cons datagram later hypothesis =>
      cases others with
      | nil => exact Nat.zero_le _
      | cons other others =>
          rcases leads.of_cons with ⟨whole, leadsLater, joined⟩
          rcases also.of_cons with ⟨otherWhole, alsoLater, otherJoined⟩
          have measured := whole.measure_append (later.flatten ++ rest)
          rw [joined, ← otherJoined, otherWhole.measure_append] at measured
          -- The first datagrams are equally long, so they are the same, and so is what follows.
          have remain := (List.append_inj (otherJoined.trans joined.symm) (Except.ok.inj measured)).2
          rw [remain] at alsoLater
          exact Nat.succ_le_succ (hypothesis leadsLater alsoLater)

theorem Cuts.exists_leads {result : Except FramingError (List Bytes)} (cuts : Cuts bytes result)
    (failed : result = .error error) :
    ∃ datagrams rest, Leads datagrams rest bytes ∧ Refused rest error := by
  induction cuts with
  | refused refused =>
      cases failed
      exact ⟨[], _, ⟨by simp, rfl⟩, refused⟩
  | last header version fits => cases failed
  | @more bytes result header version longer _ hypothesis =>
      cases result with
      | ok datagrams => cases failed
      | error found =>
          rcases hypothesis failed with ⟨datagrams, rest, leads, refused⟩
          have whole := isWhole_take (measure_of_version header version) (Nat.le_of_lt longer)
          refine ⟨bytes.take (40 + declared bytes) :: datagrams, rest, ?_, refused⟩
          have longer := leads.cons (isWhole_iff_wellFormed.mp whole)
          rwa [List.take_append_drop] at longer

theorem Leads.split_eq (leads : Leads datagrams rest bytes) (refused : Refused rest error)
    (noRow : ¬∃ row, row ≠ [] ∧ Leads row [] bytes) : split bytes = .error error := by
  induction datagrams generalizing bytes with
  | nil =>
      rw [← leads.joined]
      exact (Cuts.refused refused).split_eq
  | cons datagram later hypothesis =>
      rcases leads.of_cons with ⟨whole, leadsLater, joined⟩
      have noLaterRow : ¬∃ row, row ≠ [] ∧ Leads row [] (later.flatten ++ rest) := by
        rintro ⟨row, -, leadsRow⟩
        exact noRow ⟨_, List.cons_ne_nil _ _, joined ▸ leadsRow.cons whole⟩
      have failed := hypothesis leadsLater noLaterRow
      have more : later.flatten ++ rest ≠ [] := by
        intro nothing
        rw [nothing] at joined
        exact noRow ⟨[datagram], List.cons_ne_nil _ _, joined ▸ Leads.nil.cons whole⟩
      have there : ¬(datagram ++ (later.flatten ++ rest)).length < datagram.length := by simp
      rw [← joined, split_of_measure_ok (whole.measure_append _), if_neg there, List.drop_left,
        if_neg more, failed]
      rfl

/-- Octets split into datagrams if and only if these are one or more well-formed datagrams that stand
back to back in them, which they are for no other datagrams.  All other octets are refused for what
stands after the longest row of well-formed datagrams at the start: too little for a header, another
version, or less than the header declares.  In either case splitting goes by the rules for cutting,
and there are never more datagrams than headers that fit. -/
theorem split_accepts_exactly_rows (bytes : Bytes) :
    (∀ datagrams, split bytes = .ok datagrams ↔
        datagrams ≠ [] ∧ (∀ datagram ∈ datagrams, WellFormed datagram) ∧
          datagrams.flatten = bytes) ∧
      (∀ one other, one ≠ [] → other ≠ [] → Leads one [] bytes → Leads other [] bytes →
        one = other) ∧
      (∀ datagrams, datagrams ≠ [] → (∀ datagram ∈ datagrams, WellFormed datagram) →
        split datagrams.flatten = .ok datagrams) ∧
      (∀ error, split bytes = .error error ↔
        (¬∃ row, row ≠ [] ∧ Leads row [] bytes) ∧
          ∃ datagrams rest, LeadsLongest datagrams rest bytes ∧ Refused rest error) ∧
      (∀ result, split bytes = result ↔ Cuts bytes result) ∧
      (∀ datagrams, split bytes = .ok datagrams → datagrams.length ≤ bytes.length / 40) := by
  have accepted : ∀ datagrams bytes, split bytes = .ok datagrams ↔
      datagrams ≠ [] ∧ Leads datagrams [] bytes := by
    intro datagrams bytes
    rw [split_eq_ok_iff, isRow_iff_leads]
  refine ⟨?_, ?_, ?_, ?_, fun result => split_eq_iff_cuts, ?_⟩
  · intro datagrams
    rw [accepted]
    constructor
    · rintro ⟨filled, whole, joined⟩
      exact ⟨filled, whole, by rw [← joined, List.append_nil]⟩
    · rintro ⟨filled, whole, joined⟩
      exact ⟨filled, whole, by rw [List.append_nil, joined]⟩
  · intro one other someOne someOther first second
    have cut := (accepted one bytes).mpr ⟨someOne, first⟩
    exact Except.ok.inj (cut.symm.trans ((accepted other bytes).mpr ⟨someOther, second⟩))
  · intro datagrams filled whole
    exact (accepted _ _).mpr ⟨filled, whole, List.append_nil _⟩
  · intro error
    constructor
    · intro failed
      refine ⟨?_, ?_⟩
      · rintro ⟨row, leads⟩
        cases failed.symm.trans ((accepted row bytes).mpr leads)
      · rcases (split_eq_iff_cuts.mp failed).exists_leads rfl with
          ⟨datagrams, rest, leads, refused⟩
        exact ⟨datagrams, rest, ⟨leads, fun _ _ => leads.length_le refused⟩, refused⟩
    · rintro ⟨noRow, datagrams, rest, leads, refused⟩
      exact leads.toLeads.split_eq refused noRow
  · intro datagrams cut
    have room := ((accepted datagrams bytes).mp cut).2.length_mul_le
    omega

end TunnelServer.Datagram
