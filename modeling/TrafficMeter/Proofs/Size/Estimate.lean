import TrafficMeter.Proofs.Size.Removal

set_option autoImplicit false

namespace TrafficMeter

namespace Size

/-- A size of a number of bytes that may have up to so many megabytes in excess. Its low bytes are
exact. -/
structure Estimates (size : Size) (bytes excess : Nat) : Prop where
  lowBytes : size.lowBytes.toNat = bytes % UInt32.size
  lower : bytes / megabyte ≤ size.megabytes.toNat
  upper : size.megabytes.toNat ≤ bytes / megabyte + excess

theorem ofBytes_estimates (bytes : UInt64) : (ofBytes bytes).Estimates bytes.toNat 0 where
  lowBytes := toNat_lowBytes_ofBytes bytes
  lower := Nat.le_of_eq (toNat_megabytes_ofBytes bytes).symm
  upper := Nat.le_of_eq (toNat_megabytes_ofBytes bytes)

namespace Estimates

variable {whole : Size} {part : UInt64} {left excess : Nat}

/-- A part is taken for the whole only if there is nothing beside it. -/
theorem left_eq_zero (estimates : whole.Estimates (part.toNat + left) excess)
    (clamped : ¬ ofBytes part < whole) : left = 0 := by
  obtain ⟨lowBytes, lower, _⟩ := estimates
  rw [lt_iff_toNat, lowBytes, toNat_megabytes_ofBytes, toNat_lowBytes_ofBytes] at clamped
  simp only [megabyte, UInt32.size] at *
  omega

/-- The halves are taken apart without a borrow, which costs at most one megabyte. -/
theorem remove (estimates : whole.Estimates (part.toNat + left) excess) :
    (whole.remove (ofBytes part)).Estimates left (excess + 1) := by
  by_cases smaller : ofBytes part < whole
  · have megabytes_eq := toNat_megabytes_remove whole (ofBytes part) smaller
    have lowBytes_eq := toNat_lowBytes_remove whole (ofBytes part) smaller
    obtain ⟨lowBytes, lower, upper⟩ := estimates
    rw [toNat_megabytes_ofBytes] at megabytes_eq
    rw [toNat_lowBytes_ofBytes, lowBytes] at lowBytes_eq
    refine ⟨lowBytes_eq.trans ?_, ?_, ?_⟩
    · simp only [UInt32.size]
      omega
    · rw [megabytes_eq]
      simp only [megabyte] at *
      omega
    · rw [megabytes_eq]
      simp only [megabyte] at *
      omega
  · rw [remove_of_not_lt _ _ smaller, estimates.left_eq_zero smaller]
    exact ⟨rfl, Nat.zero_le _, Nat.zero_le _⟩

/-- Of two megabytes, two bytes are left and both megabytes with them. -/
example : ((ofBytes 2097152).remove (ofBytes 1048575)).remove (ofBytes 1048575) = ⟨2, 2⟩ := by
  decide

end Estimates

end Size

end TrafficMeter
