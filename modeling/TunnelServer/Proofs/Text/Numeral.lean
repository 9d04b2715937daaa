import TunnelServer.Text.Numeral

/-!
# Numbers that are written and read

A number written in a base is read again where no further digit follows: the reader takes the digits and
no more, finds the number that they stand for, and has nothing against their form, since no number but
zero is written with a zero in front.
-/

namespace TunnelServer.Numeral

variable {base number : Nat} {rest text : List Char}

/-- A text does not go on with a digit of a base. -/
def EndsDigits (base : Nat) (rest : List Char) : Prop :=
  ∀ character ∈ rest.head?, digitValue? base character = none

/-- The digits that a number is written with. -/
def digits (base number : Nat) : List Nat := (write base number).filterMap (digitValue? base)

/-! ## Digits -/

theorem digitValue?_digitChar {digit : Nat} (small : base ≤ 16) (bound : digit < base) :
    digitValue? base digit.digitChar = some digit := by
  have each : ∀ base, base ≤ 16 → ∀ digit, digit < base →
      digitValue? base digit.digitChar = some digit := by decide
  exact each base small digit bound

theorem digits_of_lt (small : base ≤ 16) (bound : number < base) :
    digits base number = [number] := by
  rw [digits, write, Nat.toDigits_of_lt_base bound, List.filterMap_cons,
    digitValue?_digitChar small bound, List.filterMap_nil]

theorem digits_of_le (two : 1 < base) (small : base ≤ 16) (several : base ≤ number) :
    digits base number = digits base (number / base) ++ [number % base] := by
  have last : number % base < base := Nat.mod_lt _ (by omega)
  rw [digits, write, Nat.toDigits_of_base_le two several, List.filterMap_append,
    List.filterMap_cons, digitValue?_digitChar small last, List.filterMap_nil]
  rfl

/-- What holds of the numbers below a base, and of a number if it holds of its quotient by the base,
holds of every number. -/
theorem induction_on_digits {motive : Nat → Prop} (two : 1 < base)
    (single : ∀ number, number < base → motive number)
    (several : ∀ number, base ≤ number → motive (number / base) → motive number)
    (number : Nat) : motive number := by
  induction number using Nat.strongRecOn with
  | ind number hypothesis =>
      rcases Nat.lt_or_ge number base with small | large
      · exact single number small
      · apply several number large
        apply hypothesis
        apply Nat.div_lt_self _ two
        omega

/-- Digits are written, and nothing else. -/
theorem digitValue?_of_mem_write (two : 1 < base) (small : base ≤ 16) {character : Char}
    (among : character ∈ write base number) : (digitValue? base character).isSome := by
  induction number using induction_on_digits two with
  | single number single =>
      rw [write, Nat.toDigits_of_lt_base single, List.mem_singleton] at among
      rw [among, digitValue?_digitChar small single]
      rfl
  | several number several hypothesis =>
      rw [write, Nat.toDigits_of_base_le two several, List.mem_append, List.mem_singleton] at among
      rcases among with earlier | rfl
      · exact hypothesis earlier
      · rw [digitValue?_digitChar small (Nat.mod_lt _ (by omega))]
        rfl

theorem value_digits (two : 1 < base) (small : base ≤ 16) (number : Nat) :
    value base (digits base number) = number := by
  induction number using induction_on_digits two with
  | single number single =>
      rw [digits_of_lt small single]
      simp [value]
  | several number several hypothesis =>
      rw [value] at hypothesis
      rw [digits_of_le two small several, value, List.foldl_append, hypothesis]
      exact Nat.div_add_mod' number base

theorem length_digits (two : 1 < base) (small : base ≤ 16) (number : Nat) :
    (digits base number).length = (write base number).length := by
  induction number using induction_on_digits two with
  | single number single =>
      rw [digits_of_lt small single, write, Nat.toDigits_of_lt_base single]
      rfl
  | several number several hypothesis =>
      rw [digits_of_le two small several, write, Nat.toDigits_of_base_le two several,
        List.length_append, List.length_append, hypothesis]
      rfl

theorem length_digits_pos (two : 1 < base) (small : base ≤ 16) (number : Nat) :
    0 < (digits base number).length := by
  rw [length_digits two small]
  exact Nat.length_toDigits_pos

/-- No number but zero is written with a zero in front. -/
theorem head?_digits_ne_zero (two : 1 < base) (small : base ≤ 16) (positive : 0 < number) :
    (digits base number).head? ≠ some 0 := by
  induction number using induction_on_digits two with
  | single number single =>
      rw [digits_of_lt small single]
      intro zero
      cases zero
      exact Nat.lt_irrefl 0 positive
  | several number several hypothesis =>
      have front := hypothesis (Nat.div_pos several (by omega))
      have filled := List.ne_nil_of_length_pos (length_digits_pos two small (number / base))
      rw [digits_of_le two small several, List.head?_append, List.head?_eq_some_head filled,
        Option.some_or, ← List.head?_eq_some_head filled]
      exact front

/-! ## Reading -/

theorem span_of_endsDigits (ends : EndsDigits base rest) : span base rest = ([], rest) := by
  cases rest with
  | nil => rfl
  | cons character rest =>
      have none : digitValue? base character = none := ends character (by simp)
      simp only [span, none]

theorem span_append {characters : List Char}
    (digits : ∀ character ∈ characters, (digitValue? base character).isSome)
    (ends : EndsDigits base rest) :
    span base (characters ++ rest) = (characters.filterMap (digitValue? base), rest) := by
  induction characters with
  | nil => exact span_of_endsDigits ends
  | cons character characters hypothesis =>
      have later := hypothesis fun other among => digits other (List.mem_cons_of_mem _ among)
      rcases Option.isSome_iff_exists.mp (digits character List.mem_cons_self) with ⟨digit, found⟩
      simp only [List.cons_append, span, found, later, List.filterMap_cons]

theorem span_write (two : 1 < base) (small : base ≤ 16) (ends : EndsDigits base rest) :
    span base (write base number ++ rest) = (digits base number, rest) :=
  span_append (fun _ among => digitValue?_of_mem_write two small among) ends

/-- A written number is read, if it is admitted and no further digit follows. -/
theorem read?_write (form : Form) (two : 1 < form.base) (small : form.base ≤ 16)
    (admitted : number ≤ form.limit)
    (short : ∀ most ∈ form.maxDigits, (write form.base number).length ≤ most)
    (ends : EndsDigits form.base rest) :
    form.read? (write form.base number ++ rest) = some (number, rest) := by
  have filled := length_digits_pos two small number
  simp only [Form.read?, span_write two small ends, value_digits two small]
  rw [if_neg]
  simp only [Bool.or_eq_true, Bool.and_eq_true, Option.any_eq_true, decide_eq_true_eq,
    beq_iff_eq, List.isEmpty_iff]
  rintro (((empty | ⟨most, fixed, long⟩) | ⟨⟨-, long⟩, zero⟩) | large)
  · rw [empty] at filled
    exact Nat.lt_irrefl 0 filled
  · have few := short most fixed
    rw [length_digits two small] at long
    omega
  · by_cases positive : 0 < number
    · exact head?_digits_ne_zero two small positive zero
    · have single : number < form.base := by omega
      rw [digits_of_lt small single] at long
      exact Nat.lt_irrefl 1 long
  · omega

/-- Where no digit stands there is no number. -/
theorem read?_of_endsDigits (form : Form) (ends : EndsDigits form.base text) :
    form.read? text = none := by
  simp [Form.read?, span_of_endsDigits ends]

theorem mem_of_mem_span {character : Char} (among : character ∈ (span base text).2) :
    character ∈ text := by
  induction text with
  | nil => exact among
  | cons first text hypothesis =>
      simp only [span] at among
      split at among
      · exact among
      · exact List.mem_cons_of_mem first (hypothesis among)

/-- What follows a number is part of the text. -/
theorem mem_of_read? {form : Form} {character : Char}
    (read : form.read? text = some (number, rest)) (among : character ∈ rest) :
    character ∈ text := by
  simp only [Form.read?] at read
  split at read
  · cases read
  · cases read
    exact mem_of_mem_span among

end TunnelServer.Numeral
