import Mathlib.Algebra.BigOperators.Group.List.Basic
import Mathlib.Algebra.GroupWithZero.Nat
import TrafficMeter.Proofs.Size.Slots

set_option autoImplicit false

namespace TrafficMeter

namespace Size

/-- Sums depend neither on the order nor on the grouping, even where the megabytes saturate. -/
instance : AddCommMonoid Size where
  add_assoc := Size.add_assoc
  zero_add := Size.zero_add
  add_zero := Size.add_zero
  add_comm := Size.add_comm
  nsmul := nsmulRec

/-- A table comes to the same by rows and by columns. -/
theorem sumPresent_map_sumSlots {α β : Type} (rows : List α) (columns : List β)
    (value : α → β → Option Size) :
    sumPresent (rows.map fun row => sumSlots (columns.map (value row))) =
      (columns.map fun column => sumPresent (rows.map (value · column))).sum := by
  induction columns with
  | nil =>
    simp only [List.map_nil, sumSlots_nil, List.map_const', List.sum_nil]
    rw [← getD_sumSlots, sumSlots_replicate_none, Option.getD_none]
  | cons column rest ih =>
    rw [List.map_cons, List.sum_cons, ← ih, sumPresent_eq_sum, sumPresent_eq_sum,
      sumPresent_eq_sum, List.map_map, List.map_map, List.map_map, ← List.sum_map_add]
    congr 1
    apply List.map_congr_left
    intro row _
    simp only [Function.comp_apply, List.map_cons, sumSlots_cons, getD_addSlot]

/-- A size that is set back to nothing leaves the sum of the others. -/
theorem sum_set_zero (sizes : List Size) (index : Nat) (inside : index < sizes.length) :
    (sizes.set index 0).sum = (sizes.eraseIdx index).sum := by
  have stays : index < (sizes.set index 0).length := by
    rw [List.length_set]
    exact inside
  rw [← List.CommMonoid.add_sum_eraseIdx stays, List.getElem_set_self, List.eraseIdx_set_eq,
    Size.zero_add]

/-- As long as nothing saturates, the megabytes are summed as numbers. -/
theorem toNat_megabytes_sum (sizes : List Size)
    (fits : (sizes.map (·.megabytes.toNat)).sum < UInt64.size) :
    sizes.sum.megabytes.toNat = (sizes.map (·.megabytes.toNat)).sum := by
  induction sizes with
  | nil => rfl
  | cons first rest ih =>
    rw [List.map_cons, List.sum_cons] at fits
    rw [List.sum_cons, toNat_megabytes_add, ih (by omega), List.map_cons, List.sum_cons]
    omega

/-- As long as nothing saturates, a size and the sum of the others share the megabytes. -/
theorem toNat_megabytes_eraseIdx (sizes : List Size) (index : Nat) (inside : index < sizes.length)
    (fits : (sizes.map (·.megabytes.toNat)).sum < UInt64.size) :
    sizes[index].megabytes.toNat + (sizes.eraseIdx index).sum.megabytes.toNat =
      (sizes.map (·.megabytes.toNat)).sum := by
  have counted : index < (sizes.map (·.megabytes.toNat)).length := by
    rw [List.length_map]
    exact inside
  have split := List.CommMonoid.add_sum_eraseIdx counted
  rw [List.getElem_map, List.eraseIdx_map] at split
  rw [toNat_megabytes_sum (sizes.eraseIdx index) (by omega), split]

end Size

end TrafficMeter
