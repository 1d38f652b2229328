import TrafficMeter.Number.Decimal

set_option autoImplicit false

namespace TrafficMeter.Decimal

theorem isDigit_of_mem_digits (number : Nat) (char : Char) (member : char ∈ digits number) :
    char.isDigit :=
  Nat.isDigit_of_mem_toDigits (by decide) (by decide) member

/-- Digits tell the number they were written for. -/
@[simp] theorem value_digits (number : Nat) : value (digits number) = number := by
  rw [value, digits, ← Nat.ofDigitChars_eq_foldl, Nat.ofDigitChars_ten_toDigits]

theorem exists_digits (number : Nat) :
    ∃ first rest, digits number = first :: rest ∧ first.isDigit := by
  obtain ⟨first, rest, digits_eq⟩ := List.exists_cons_of_ne_nil
    (show digits number ≠ [] from Nat.toDigits_ne_nil)
  refine ⟨first, rest, digits_eq, isDigit_of_mem_digits number first ?_⟩
  rw [digits_eq]
  exact List.mem_cons_self

theorem digits_of_ten_le (number : Nat) (large : 10 ≤ number) :
    digits number = digits (number / 10) ++ [(number % 10).digitChar] :=
  Nat.toDigits_of_base_le (by decide) large

/-- Only zero begins with a zero. -/
theorem exists_digits_eq_cons (number : Nat) (positive : 0 < number) :
    ∃ first rest, digits number = first :: rest ∧ first.isDigit ∧ first ≠ '0' := by
  induction number using Nat.strongRecOn with
  | ind number ih =>
    by_cases small : number < 10
    · refine ⟨number.digitChar, [], Nat.toDigits_of_lt_base small, ?_, ?_⟩
      · rw [Nat.isDigit_digitChar, decide_eq_true small]
      · rw [Ne, Nat.digitChar_eq_zero]
        omega
    · obtain ⟨first, rest, digits_eq, digit, nonzero⟩ := ih (number / 10) (by omega) (by omega)
      refine ⟨first, rest ++ [(number % 10).digitChar], ?_, digit, nonzero⟩
      rw [digits_of_ten_le number (by omega), digits_eq, List.cons_append]

theorem signed_zero_of_nonneg (number : Nat) : signed 0 number = digits number := by
  have nonnegative : ¬ ((number : Int) < 0) := by omega
  simp only [signed, nonnegative, ↓reduceIte, padded, Nat.zero_sub, List.replicate_zero,
    List.nil_append, Int.natAbs_natCast]

theorem signed_zero_of_neg (number : Int) (negative : number < 0) :
    signed 0 number = '-' :: digits number.natAbs := by
  simp only [signed, negative, ↓reduceIte, padded, Nat.zero_sub, List.replicate_zero,
    List.nil_append]

end TrafficMeter.Decimal
