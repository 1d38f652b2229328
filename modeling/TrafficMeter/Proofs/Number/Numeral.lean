import Mathlib.Algebra.Group.Nat.Defs
import Mathlib.Data.List.Induction
import TrafficMeter.Proofs.Number.Digits

set_option autoImplicit false

namespace TrafficMeter.Decimal

/-- One to `limit` ASCII digits and nothing else. -/
structure DigitsUpTo (limit : Nat) (chars : List Char) : Prop where
  nonempty : chars ≠ []
  length_le : chars.length ≤ limit
  digits : ∀ char ∈ chars, char.isDigit

/-- A text of at most `limit` places that writes a number, with or without zeros in front. -/
structure Numeral (limit : Nat) (chars : List Char) (number : Nat) : Prop where
  length_le : chars.length ≤ limit
  written : ∃ zeros, chars = List.replicate zeros '0' ++ digits number

theorem code_of_isDigit (char : Char) (digit : char.isDigit) :
    48 ≤ char.toNat ∧ char.toNat ≤ 57 :=
  Char.isDigit_iff_toNat.mp digit

theorem digitChar_value (char : Char) (digit : char.isDigit) :
    char.toNat - '0'.toNat < 10 ∧ (char.toNat - '0'.toNat).digitChar = char := by
  have bounds := code_of_isDigit char digit
  have zero : '0'.toNat = 48 := rfl
  refine ⟨by omega, ?_⟩
  apply Char.toNat_inj.mp
  rw [Nat.toNat_digitChar_of_lt_ten (by omega)]
  omega

@[simp] theorem value_append_singleton (chars : List Char) (char : Char) :
    value (chars ++ [char]) = 10 * value chars + (char.toNat - '0'.toNat) := by
  rw [value, List.foldl_append, List.foldl_cons, List.foldl_nil, value]

/-- Zeros in front do not change what a number is read as. -/
@[simp] theorem value_zeros_append (zeros number : Nat) :
    value (List.replicate zeros '0' ++ digits number) = number := by
  rw [value, ← Nat.ofDigitChars_eq_foldl, Nat.ofDigitChars_append,
    Nat.ofDigitChars_replicate_zero, Nat.mul_zero, digits, Nat.ofDigitChars_ten_toDigits]

/-- Digits write their value, behind the zeros they begin with. -/
theorem exists_zeros_append (chars : List Char) (nonempty : chars ≠ [])
    (allDigits : ∀ char ∈ chars, char.isDigit) :
    ∃ zeros, chars = List.replicate zeros '0' ++ digits (value chars) := by
  induction chars using List.reverseRecOn with
  | nil => exact absurd rfl nonempty
  | append_singleton before char ih =>
    obtain ⟨small, char_eq⟩ := digitChar_value char (allDigits char (by simp))
    rw [value_append_singleton]
    generalize char.toNat - '0'.toNat = digit at small char_eq
    have last : digits digit = [char] := by
      rw [digits, Nat.toDigits_of_lt_base small, char_eq]
    by_cases alone : before = []
    · subst alone
      refine ⟨0, ?_⟩
      show _ = digits (10 * 0 + digit)
      rw [Nat.mul_zero, Nat.zero_add, last, List.nil_append]
    · obtain ⟨zeros, before_eq⟩ := ih alone fun found listed => allDigits found (by simp [listed])
      by_cases blank : value before = 0
      · -- the digits so far are zeros only, the last of which stands for the number
        have zero_eq : digits 0 = List.replicate 1 '0' := rfl
        rw [blank, zero_eq, List.replicate_append_replicate] at before_eq
        exact ⟨zeros + 1, by rw [blank, Nat.mul_zero, Nat.zero_add, last, before_eq]⟩
      · have joined := Nat.toDigits_append_toDigits (by decide : 1 < 10)
          (Nat.pos_of_ne_zero blank) small
        refine ⟨zeros, ?_⟩
        rw [digits, ← joined, ← List.append_assoc]
        exact congrArg₂ (· ++ ·) before_eq last.symm

section Numeral

variable {limit number : Nat} {chars : List Char}

theorem Numeral.value_eq (numeral : Numeral limit chars number) : value chars = number := by
  obtain ⟨zeros, rfl⟩ := numeral.written
  exact value_zeros_append zeros number

theorem Numeral.digitsUpTo (numeral : Numeral limit chars number) : DigitsUpTo limit chars := by
  obtain ⟨zeros, chars_eq⟩ := numeral.written
  refine ⟨?_, numeral.length_le, ?_⟩
  · obtain ⟨first, rest, digits_eq, _⟩ := exists_digits number
    rw [chars_eq, digits_eq]
    exact List.append_ne_nil_of_right_ne_nil _ (List.cons_ne_nil first rest)
  · intro char listed
    rw [chars_eq] at listed
    rcases List.mem_append.mp listed with zero | digit
    · rw [List.eq_of_mem_replicate zero]
      rfl
    · exact isDigit_of_mem_digits number char digit

theorem DigitsUpTo.numeral (short : DigitsUpTo limit chars) : Numeral limit chars (value chars) :=
  ⟨short.length_le, exists_zeros_append chars short.nonempty short.digits⟩

/-- Few places write small numbers only. -/
theorem Numeral.lt (numeral : Numeral limit chars number) : number < 10 ^ limit := by
  obtain ⟨zeros, chars_eq⟩ := numeral.written
  have positive := List.length_pos_iff.mpr numeral.digitsUpTo.nonempty
  have length_le := numeral.length_le
  have places : (digits number).length ≤ chars.length := by
    rw [chars_eq, List.length_append]
    omega
  exact (Nat.length_toDigits_le_iff (by decide) (by omega)).mp (by rw [digits] at places; omega)

theorem number?_eq_some_iff : number? limit chars = some number ↔ Numeral limit chars number := by
  simp only [number?, List.all_eq_true]
  constructor
  · intro found
    split at found
    · rename_i short
      cases found
      exact DigitsUpTo.numeral ⟨short.1, short.2.1, short.2.2⟩
    · cases found
  · intro numeral
    have short := numeral.digitsUpTo
    rw [if_pos ⟨short.nonempty, short.length_le, short.digits⟩, numeral.value_eq]

theorem number?_eq_none_iff : number? limit chars = none ↔ ¬ DigitsUpTo limit chars := by
  rw [Option.eq_none_iff_forall_ne_some]
  constructor
  · intro refused short
    exact refused _ (number?_eq_some_iff.mpr short.numeral)
  · intro wrong found read
    exact wrong (number?_eq_some_iff.mp read).digitsUpTo

theorem length_padded (positive : 0 < limit) (small : number < 10 ^ limit) :
    (padded limit number).length = limit := by
  have places : (digits number).length ≤ limit :=
    (Nat.length_toDigits_le_iff (by decide) positive).mpr small
  rw [padded, List.length_append, List.length_replicate]
  omega

theorem numeral_padded (positive : 0 < limit) (small : number < 10 ^ limit) :
    Numeral limit (padded limit number) number :=
  ⟨Nat.le_of_eq (length_padded positive small), _, rfl⟩

end Numeral

theorem isDigit_of_mem_padded (width number : Nat) (char : Char)
    (member : char ∈ padded width number) : char.isDigit :=
  (⟨Nat.le_refl _, _, rfl⟩ :
    Numeral (padded width number).length _ number).digitsUpTo.digits char member

theorem not_dash_mem_padded (width number : Nat) : '-' ∉ padded width number := by
  intro listed
  exact absurd (isDigit_of_mem_padded width number '-' listed) (by decide)

theorem padded_injective (width : Nat) : Function.Injective (padded width) := by
  intro number other same
  have read := congrArg value same
  rwa [padded, padded, value_zeros_append, value_zeros_append] at read

theorem signed_of_nonneg (width number : Nat) :
    signed width (number : Int) = padded width number := by
  have nonnegative : ¬ ((number : Int) < 0) := by omega
  simp only [signed, nonnegative, ↓reduceIte, Int.natAbs_natCast]

/-- The sign, if any, stands in front; all other places are digits. -/
theorem exists_signed (width : Nat) (number : Int) :
    ∃ first rest, signed width number = first :: rest ∧ (first = '-' ∨ first.isDigit) ∧
      ∀ char ∈ rest, char.isDigit := by
  have digit (width : Nat) : ∀ char ∈ padded width number.natAbs, char.isDigit :=
    isDigit_of_mem_padded width number.natAbs
  by_cases negative : number < 0
  · refine ⟨'-', padded (width - 1) number.natAbs, ?_, .inl rfl, digit _⟩
    simp only [signed, negative, ↓reduceIte]
  · have unsigned : signed width number = padded width number.natAbs := by
      simp only [signed, negative, ↓reduceIte]
    obtain ⟨first, rest, padded_eq⟩ := List.exists_cons_of_ne_nil
      (show padded width number.natAbs ≠ [] from
        List.append_ne_nil_of_right_ne_nil _ Nat.toDigits_ne_nil)
    have listed := digit width
    rw [padded_eq] at listed
    exact ⟨first, rest, unsigned.trans padded_eq, .inr (listed first List.mem_cons_self),
      fun char member => listed char (List.mem_cons_of_mem first member)⟩

theorem signed_injective (width : Nat) : Function.Injective (signed width) := by
  have unlike (number other : Nat) : '-' :: padded (width - 1) number ≠ padded width other := by
    intro same
    have digit := isDigit_of_mem_padded width other '-' (by rw [← same]; simp)
    exact absurd digit (by decide)
  intro number other same
  simp only [signed] at same
  split at same <;> split at same
  · have size_eq := padded_injective _ (List.cons.inj same).2
    omega
  · exact absurd same (unlike _ _)
  · exact absurd same.symm (unlike _ _)
  · have size_eq := padded_injective _ same
    omega

theorem not_space_mem_signed (width : Nat) (number : Int) : ' ' ∉ signed width number := by
  obtain ⟨first, rest, signed_eq, begins, digits⟩ := exists_signed width number
  rw [signed_eq]
  intro listed
  rcases List.mem_cons.mp listed with rfl | inRest
  · revert begins
    decide
  · exact absurd (digits ' ' inRest) (by decide)

end TrafficMeter.Decimal
