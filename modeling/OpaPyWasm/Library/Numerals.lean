import Mathlib.Data.Nat.Digits.Lemmas

/-!
# Numerals

The digits of a number in a base, the most significant one first and without leading zeros. In
a base of 2 or more every number has one numeral. Digits that are a numeral of one number in two
bases are a single digit.
-/

namespace Numerals

/-- Digits that stand for a number in a base. -/
structure IsNumeral (base n : Nat) (digits : List Nat) : Prop where
  below : ∀ digit ∈ digits, digit < base
  value : Nat.ofDigits base digits.reverse = n
  nonempty : digits ≠ []
  leading : ∀ rest, digits = 0 :: rest → rest = []

variable {base larger n digit : Nat} {digits other : List Nat}

/-- A number below the base is a digit. -/
theorem isNumeral_digit (less : digit < base) : IsNumeral base digit [digit] where
  below := List.forall_mem_singleton.mpr less
  value := Nat.ofDigits_singleton
  nonempty := List.cons_ne_nil _ _
  leading rest same := by
    rw [List.cons.injEq] at same
    exact same.2.symm

/-- A digit behind a numeral. -/
theorem IsNumeral.append (numeral : IsNumeral base n digits) (positive : 0 < n) (less : digit < base) :
    IsNumeral base (digit + base * n) (digits ++ [digit]) where
  below := by
    intro inner member
    rcases List.mem_append.mp member with front | back
    · exact numeral.below inner front
    · rw [List.mem_singleton.mp back]
      exact less
  value := by
    rw [List.reverse_append, List.reverse_singleton, List.singleton_append, Nat.ofDigits_cons,
      numeral.value]
  nonempty := by simp
  leading rest same := by
    cases digits with
    | nil => exact absurd rfl numeral.nonempty
    | cons first digits =>
      rw [List.cons_append, List.cons.injEq] at same
      obtain ⟨rfl, -⟩ := same
      obtain rfl := numeral.leading digits rfl
      have zero : n = 0 := by simpa using numeral.value.symm
      omega

/-- The characters that the core library prints are a numeral. -/
theorem toDigits_numeral (two : 1 < base) (n : Nat) :
    ∃ digits, IsNumeral base n digits ∧ Nat.toDigits base n = digits.map Nat.digitChar := by
  induction n using Nat.strongRecOn with
  | ind n inductionHypothesis =>
    by_cases less : n < base
    · exact ⟨[n], isNumeral_digit less, Nat.toDigits_of_lt_base less⟩
    · have enough : base ≤ n := Nat.le_of_not_lt less
      have smaller : n / base < n := Nat.div_lt_self (by omega) two
      obtain ⟨digits, numeral, printed⟩ := inductionHypothesis (n / base) smaller
      have last : n % base < base := Nat.mod_lt n (by omega)
      refine ⟨digits ++ [n % base], ?_, ?_⟩
      · have longer := numeral.append (Nat.div_pos enough (by omega)) last
        rwa [Nat.mod_add_div] at longer
      · rw [Nat.toDigits_of_base_le two enough, printed, List.map_append, List.map_singleton]

/-- The numeral of 0 is its digit. -/
theorem IsNumeral.eq_zero (two : 1 < base) (numeral : IsNumeral base 0 digits) : digits = [0] := by
  have zeros := Nat.digits_zero_of_eq_zero (by omega) numeral.value
  cases digits with
  | nil => exact absurd rfl numeral.nonempty
  | cons first rest =>
    obtain rfl : first = 0 := zeros first (by simp)
    rw [numeral.leading rest rfl]

/-- The numeral of another number has the digits that Mathlib's `Nat.digits` has. -/
theorem IsNumeral.reverse_eq (two : 1 < base) (numeral : IsNumeral base n digits) (nonzero : n ≠ 0) :
    digits.reverse = Nat.digits base n := by
  rw [← numeral.value]
  refine (Nat.digits_ofDigits base two _ (by simpa using numeral.below) fun inside => ?_).symm
  rw [List.getLast_reverse]
  intro zero
  cases digits with
  | nil => exact numeral.nonempty rfl
  | cons first rest =>
    obtain rfl : first = 0 := zero
    obtain rfl := numeral.leading rest rfl
    exact nonzero (by simpa using numeral.value.symm)

/-- A number has one numeral. -/
theorem IsNumeral.unique (two : 1 < base) (numeral : IsNumeral base n digits)
    (again : IsNumeral base n other) : digits = other := by
  by_cases zero : n = 0
  · subst zero
    rw [numeral.eq_zero two, again.eq_zero two]
  · exact List.reverse_inj.mp ((numeral.reverse_eq two zero).trans (again.reverse_eq two zero).symm)

/-- Digits that are a numeral of one number in two bases are a digit of the smaller base. -/
theorem IsNumeral.lt_of_larger (numeral : IsNumeral base n digits)
    (again : IsNumeral larger n digits) (less : base < larger) : n < base := by
  obtain rfl | ⟨front, last, rfl⟩ := List.eq_nil_or_concat digits
  · exact absurd rfl numeral.nonempty
  · have inside := numeral.below last (by simp)
    have value := numeral.value
    have same := numeral.value.trans again.value.symm
    simp only [List.concat_eq_append, List.reverse_append, List.reverse_singleton, List.singleton_append,
      Nat.ofDigits_cons] at value same
    by_cases empty : front = []
    · subst empty
      simp at value
      omega
    · have positive : 0 < Nat.ofDigits base front.reverse := by
        refine Nat.pos_of_ne_zero fun zero => ?_
        have zeros := Nat.digits_zero_of_eq_zero (by omega) zero
        obtain ⟨first, rest, rfl⟩ := List.exists_cons_of_ne_nil empty
        obtain rfl : first = 0 := zeros first (by simp)
        have alone := numeral.leading (rest ++ [last]) (by simp)
        simp at alone
      have grows : Nat.ofDigits base front.reverse ≤ Nat.ofDigits larger front.reverse :=
        Nat.ofDigits_monotone _ less.le
      have apart : base * Nat.ofDigits base front.reverse < larger * Nat.ofDigits larger front.reverse :=
        calc base * Nat.ofDigits base front.reverse
            < larger * Nat.ofDigits base front.reverse := Nat.mul_lt_mul_of_pos_right less positive
          _ ≤ larger * Nat.ofDigits larger front.reverse := Nat.mul_le_mul_left larger grows
      simp at same
      omega

end Numerals
