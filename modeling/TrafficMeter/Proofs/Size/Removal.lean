import TrafficMeter.Size.Basic

set_option autoImplicit false

namespace TrafficMeter

namespace Size

/-- A part is taken for no less than the whole in two cases: nothing else is in the whole, or what
else there is adds no megabyte and makes the low bytes wrap. -/
theorem not_lt_add_iff (part rest : Size)
    (fits : part.megabytes.toNat + rest.megabytes.toNat < UInt64.size) :
    ¬ part < part + rest ↔ rest = 0 ∨
      (rest.megabytes = 0 ∧ UInt32.size ≤ part.lowBytes.toNat + rest.lowBytes.toNat) := by
  have whole : (part + rest).megabytes.toNat = part.megabytes.toNat + rest.megabytes.toNat := by
    rw [toNat_megabytes_add]
    omega
  have low := part.toNat_lowBytes_add rest
  have zero_iff : rest = 0 ↔ rest.megabytes.toNat = 0 ∧ rest.lowBytes.toNat = 0 := by
    rw [Size.ext_iff, ← UInt64.toNat_inj, ← UInt32.toNat_inj]
    rfl
  have none_iff : rest.megabytes = 0 ↔ rest.megabytes.toNat = 0 := by
    rw [← UInt64.toNat_inj]
    rfl
  have partBound : part.lowBytes.toNat < UInt32.size := part.lowBytes.toNat_lt
  have restBound : rest.lowBytes.toNat < UInt32.size := rest.lowBytes.toNat_lt
  rw [zero_iff, none_iff, lt_iff_toNat, whole, low]
  simp only [UInt32.size] at *
  omega

theorem remove_of_lt (whole part : Size) (smaller : part < whole) :
    whole.remove part =
      ⟨whole.megabytes - part.megabytes, whole.lowBytes - part.lowBytes⟩ := by
  rw [remove, if_pos smaller]

theorem remove_of_not_lt (whole part : Size) (larger : ¬ part < whole) : whole.remove part = 0 := by
  rw [remove, if_neg larger]

/-- A smaller part has no more megabytes than the whole, so their difference never wraps. -/
theorem toNat_megabytes_remove (whole part : Size) (smaller : part < whole) :
    (whole.remove part).megabytes.toNat =
      whole.megabytes.toNat - part.megabytes.toNat := by
  have ordered : part.megabytes ≤ whole.megabytes := by
    rw [lt_iff_toNat] at smaller
    rw [UInt64.le_iff_toNat_le]
    omega
  rw [remove_of_lt _ _ smaller, UInt64.toNat_sub_of_le _ _ ordered]

theorem toNat_lowBytes_remove (whole part : Size) (smaller : part < whole) :
    (whole.remove part).lowBytes.toNat =
      (UInt32.size - part.lowBytes.toNat + whole.lowBytes.toNat) % UInt32.size := by
  rw [remove_of_lt _ _ smaller]
  exact UInt32.toNat_sub whole.lowBytes part.lowBytes

/-- Something is left of a size whenever the part is smaller. -/
theorem remove_eq_zero_iff (whole part : Size) :
    whole.remove part = 0 ↔ ¬ part < whole := by
  refine ⟨?_, remove_of_not_lt whole part⟩
  intro nothing smaller
  have megabytes_eq := toNat_megabytes_remove whole part smaller
  have lowBytes_eq := toNat_lowBytes_remove whole part smaller
  have wholeBound := whole.lowBytes.toNat_lt
  have partBound := part.lowBytes.toNat_lt
  rw [nothing, megabytes_zero, UInt64.toNat_zero] at megabytes_eq
  rw [nothing, lowBytes_zero, UInt32.toNat_zero] at lowBytes_eq
  rw [lt_iff_toNat] at smaller
  simp only [UInt32.size] at lowBytes_eq
  omega

/-- Taking a part out of a sum leaves the rest, but not if the rest adds no megabyte and makes the
low bytes wrap: then the part looks larger than the whole, and the rest is dropped. -/
theorem remove_add_eq_iff (part rest : Size)
    (fits : part.megabytes.toNat + rest.megabytes.toNat < UInt64.size) :
    (part + rest).remove part = rest ↔
      ¬ (rest.megabytes = 0 ∧ UInt32.size ≤ part.lowBytes.toNat + rest.lowBytes.toNat) := by
  have clamped := not_lt_add_iff part rest fits
  by_cases smaller : part < part + rest
  · have kept : ¬ (rest.megabytes = 0 ∧
        UInt32.size ≤ part.lowBytes.toNat + rest.lowBytes.toNat) :=
      fun wraps => clamped.mpr (.inr wraps) smaller
    refine iff_of_true ?_ kept
    have megabytes_eq : (part + rest).megabytes = rest.megabytes + part.megabytes := by
      rw [← UInt64.toNat_inj, toNat_megabytes_add, UInt64.toNat_add]
      simp only [UInt64.size] at *
      omega
    have lowBytes_eq : (part + rest).lowBytes = rest.lowBytes + part.lowBytes :=
      UInt32.add_comm _ _
    rw [remove_of_lt _ _ smaller, megabytes_eq, lowBytes_eq, UInt64.add_sub_cancel,
      UInt32.add_sub_cancel]
  · rw [remove_of_not_lt _ _ smaller]
    constructor
    · rintro rfl ⟨_, wraps⟩
      have bound : part.lowBytes.toNat < UInt32.size := part.lowBytes.toNat_lt
      rw [lowBytes_zero, UInt32.toNat_zero] at wraps
      omega
    · intro kept
      exact ((clamped.mp smaller).resolve_right kept).symm

end Size

end TrafficMeter
