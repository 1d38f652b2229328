import TrafficMeter.Proofs.Size.Estimate

set_option autoImplicit false

namespace TrafficMeter

/-- Numbers of equally many whole units are told apart by what is left of them, even where that has
wrapped around, as long as it wraps at a whole number of units. -/
theorem mod_lt_mod_iff_of_div_eq (unit units count other : Nat)
    (same : count / unit = other / unit) :
    count % (unit * units) < other % (unit * units) ↔ count < other := by
  have turns : count / (unit * units) = other / (unit * units) := by
    rw [← Nat.div_div_eq_div_mul, ← Nat.div_div_eq_div_mul, same]
  have count_eq := Nat.div_add_mod count (unit * units)
  have other_eq := Nat.div_add_mod other (unit * units)
  rw [turns] at count_eq
  omega

namespace Size

section Order

variable (count other : UInt64)

theorem ofBytes_lt_iff_halves :
    ofBytes count < ofBytes other ↔ count.toNat / megabyte < other.toNat / megabyte ∨
      (count.toNat / megabyte = other.toNat / megabyte ∧
        count.toNat % UInt32.size < other.toNat % UInt32.size) := by
  rw [lt_iff_toNat, toNat_megabytes_ofBytes, toNat_megabytes_ofBytes, toNat_lowBytes_ofBytes,
    toNat_lowBytes_ofBytes]

theorem ofBytes_lt_iff : ofBytes count < ofBytes other ↔ count < other := by
  rw [ofBytes_lt_iff_halves, UInt64.lt_iff_toNat_lt]
  rcases Nat.lt_trichotomy (count.toNat / megabyte) (other.toNat / megabyte) with
    fewer | same | more
  · exact iff_of_true (.inl fewer) (Nat.lt_of_div_lt_div fewer)
  · -- the low bytes wrap at 4096 megabytes, so equal megabytes have wrapped equally often
    have wraps : UInt32.size = megabyte * 4096 := rfl
    rw [wraps, mod_lt_mod_iff_of_div_eq megabyte 4096 _ _ same, same]
    simp only [Nat.lt_irrefl, true_and, false_or]
  · have greater := Nat.lt_of_div_lt_div more
    omega

theorem compare_ofBytes : compare (ofBytes count) (ofBytes other) = compare count other := by
  simp only [compare, compareOfLessAndEq, ofBytes_lt_iff]
  by_cases less : count < other
  · rw [if_pos less, if_pos less]
  · have greater_iff : other < count ↔ ¬ count = other := by
      rw [UInt64.lt_iff_toNat_lt] at less
      rw [UInt64.lt_iff_toNat_lt, ← UInt64.toNat_inj]
      omega
    simp only [less, greater_iff, if_false, ite_not]

theorem ofBytes_injective : Function.Injective ofBytes := by
  intro count other same
  have not_less : ¬ count < other := by
    rw [← ofBytes_lt_iff, same]
    exact Size.lt_irrefl _
  have not_greater : ¬ other < count := by
    rw [← ofBytes_lt_iff, same]
    exact Size.lt_irrefl _
  exact UInt64.le_antisymm (UInt64.not_lt.mp not_greater) (UInt64.not_lt.mp not_less)

end Order

section Difference

variable (whole part : UInt64)

theorem remove_ofBytes_eq_zero_iff :
    (ofBytes whole).remove (ofBytes part) = 0 ↔ whole ≤ part := by
  rw [remove_eq_zero_iff, ofBytes_lt_iff, UInt64.not_lt]

theorem remove_ofBytes_estimates (ordered : part ≤ whole) :
    ((ofBytes whole).remove (ofBytes part)).Estimates (whole.toNat - part.toNat) 1 := by
  have together : part.toNat + (whole.toNat - part.toNat) = whole.toNat :=
    Nat.add_sub_of_le (UInt64.le_iff_toNat_le.mp ordered)
  have estimates := ofBytes_estimates whole
  rw [← together] at estimates
  exact estimates.remove

/-- There is a megabyte too many exactly where one had to be borrowed for the bytes beyond whole
megabytes. -/
theorem megabytes_remove_ofBytes_eq_succ_iff (smaller : part < whole) :
    ((ofBytes whole).remove (ofBytes part)).megabytes.toNat =
        (whole.toNat - part.toNat) / megabyte + 1 ↔
      whole.toNat % megabyte < part.toNat % megabyte := by
  rw [toNat_megabytes_remove _ _ ((ofBytes_lt_iff part whole).mpr smaller),
    toNat_megabytes_ofBytes, toNat_megabytes_ofBytes]
  rw [UInt64.lt_iff_toNat_lt] at smaller
  simp only [megabyte]
  omega

end Difference

end Size

/-- Sizes of byte counts are ordered as the counts are, although the low bytes that break a tie have
wrapped around, and different counts have different sizes. Taking a count out of another leaves
nothing exactly if it is not the smaller one. Otherwise the low bytes are those of the difference,
and the megabytes are its whole megabytes, or one more where one had to be borrowed. -/
theorem sizes_are_ordered_as_bytes :
    (∀ count other : UInt64,
      (Size.ofBytes count < Size.ofBytes other ↔
        count.toNat / megabyte < other.toNat / megabyte ∨
          (count.toNat / megabyte = other.toNat / megabyte ∧
            count.toNat % UInt32.size < other.toNat % UInt32.size)) ∧
        (Size.ofBytes count < Size.ofBytes other ↔ count < other) ∧
        compare (Size.ofBytes count) (Size.ofBytes other) = compare count other) ∧
      Function.Injective Size.ofBytes ∧
      ∀ whole part : UInt64,
        let left := (Size.ofBytes whole).remove (Size.ofBytes part)
        let bytes := whole.toNat - part.toNat
        (left = 0 ↔ whole ≤ part) ∧
          (part < whole →
            left.lowBytes.toNat = bytes % UInt32.size ∧
              (left.megabytes.toNat = bytes / megabyte ∨
                left.megabytes.toNat = bytes / megabyte + 1) ∧
              (left.megabytes.toNat = bytes / megabyte + 1 ↔
                whole.toNat % megabyte < part.toNat % megabyte)) := by
  refine ⟨?_, Size.ofBytes_injective, ?_⟩
  · intro count other
    exact ⟨Size.ofBytes_lt_iff_halves count other, Size.ofBytes_lt_iff count other,
      Size.compare_ofBytes count other⟩
  · intro whole part left bytes
    refine ⟨Size.remove_ofBytes_eq_zero_iff whole part, ?_⟩
    intro smaller
    obtain ⟨lowBytes, lower, upper⟩ :=
      Size.remove_ofBytes_estimates whole part (UInt64.le_of_lt smaller)
    exact ⟨lowBytes, Nat.le_and_le_add_one_iff.mp ⟨lower, upper⟩,
      Size.megabytes_remove_ofBytes_eq_succ_iff whole part smaller⟩

/-- At four gigabytes the low bytes begin again, so the larger count has the smaller ones. The single
byte between the two counts is left, beside a megabyte that had to be borrowed. -/
theorem sizes_are_ordered_as_bytes_at_wrap :
    let whole := Size.ofBytes 4294967296
    let part := Size.ofBytes 4294967295
    whole.lowBytes < part.lowBytes ∧ part < whole ∧ (4294967295 : UInt64) < 4294967296 ∧
      whole.remove part ≠ 0 ∧ (whole.remove part).lowBytes.toNat = 1 ∧
      (whole.remove part).megabytes.toNat = 1 := by
  intro whole part
  obtain ⟨order, _, difference⟩ := sizes_are_ordered_as_bytes
  have smaller : (4294967295 : UInt64) < 4294967296 := by decide
  obtain ⟨nothing_iff, rest⟩ := difference 4294967296 4294967295
  obtain ⟨lowBytes, _, borrows⟩ := rest smaller
  refine ⟨by decide, (order _ _).2.1.mpr smaller, smaller, ?_, lowBytes, borrows.mpr (by decide)⟩
  exact mt nothing_iff.mp (by decide)

end TrafficMeter
