import Mathlib.Data.List.ReduceOption
import Mathlib.Order.MinMax
import TrafficMeter.Proofs.Number.Extremes
import TrafficMeter.Size.Unit

set_option autoImplicit false

namespace TrafficMeter

/-- Byte counts that share an axis, absent where nothing was recorded. -/
abbrev ByteCounts := List (Option UInt64)

namespace ByteCounts

/-- The counts that are present, as numbers. -/
def present (counts : ByteCounts) : List Nat := counts.reduceOption.map UInt64.toNat

/-- The largest count; zero if there is none. -/
def largest (counts : ByteCounts) : Nat := counts.present.foldl max 0

def sizes (counts : ByteCounts) : List (Option Size) := counts.map (Option.map Size.ofBytes)

/-- Every count so many times over. -/
def scaled (factor : Nat) (counts : ByteCounts) : ByteCounts :=
  counts.map (Option.map fun count => UInt64.ofNat (factor * count.toNat))

variable (counts : ByteCounts)

theorem le_largest_of_mem_present (number : Nat) (member : number ∈ counts.present) :
    number ≤ counts.largest :=
  (le_foldl_max_iff _ _ _).mpr (.inr ⟨number, member, Nat.le_refl number⟩)

theorem toNat_le_largest (count : UInt64) (member : some count ∈ counts) :
    count.toNat ≤ counts.largest := by
  apply counts.le_largest_of_mem_present
  rw [present]
  exact List.mem_map_of_mem (List.reduceOption_mem_iff.mpr member)

/-- What grows with the counts is largest for the largest of them. -/
theorem foldl_max_map_present (image : Nat → Nat) (monotone : Monotone image)
    (zero : image 0 = 0) : (counts.present.map image).foldl max 0 = image counts.largest := by
  have folded : counts.present.foldl (fun largest number => max largest (image number)) (image 0) =
      image (counts.present.foldl max 0) := by
    apply List.foldl_hom
    intro largest number
    exact monotone.map_max.symm
  rw [zero] at folded
  rw [List.foldl_map, folded, largest]

/-- The megabytes are largest for the largest count. -/
theorem foldl_max_megabytes :
    (counts.sizes.reduceOption.map (·.megabytes.toNat)).foldl max 0 =
      counts.largest / megabyte := by
  have halves : counts.sizes.reduceOption.map (·.megabytes.toNat) =
      counts.present.map (· / megabyte) := by
    simp only [sizes, present, List.reduceOption_map, List.map_map, Function.comp_def,
      Size.toNat_megabytes_ofBytes]
  rw [halves]
  apply counts.foldl_max_map_present
  · intro smaller larger ordered
    exact Nat.div_le_div_right ordered
  · exact Nat.zero_div megabyte

/-- The low bytes are largest for the largest count only as long as no count wraps. -/
theorem foldl_max_lowBytes (small : counts.largest < UInt32.size) :
    (counts.sizes.reduceOption.map (·.lowBytes.toNat)).foldl max 0 = counts.largest := by
  have halves : counts.sizes.reduceOption.map (·.lowBytes.toNat) = counts.present := by
    rw [sizes, present, List.reduceOption_map, List.map_map]
    apply List.map_congr_left
    intro count member
    have bound := counts.le_largest_of_mem_present _ (List.mem_map_of_mem member)
    rw [Function.comp_apply, Size.toNat_lowBytes_ofBytes,
      Nat.mod_eq_of_lt (Nat.lt_of_le_of_lt bound small)]
  rw [halves, largest]

/-- The largest count grows like all others. -/
theorem largest_scaled (factor : Nat) (fits : factor * counts.largest < UInt64.size) :
    (counts.scaled factor).largest = factor * counts.largest := by
  have multiples : (counts.scaled factor).present = counts.present.map (factor * ·) := by
    rw [scaled, present, present, List.reduceOption_map, List.map_map, List.map_map]
    apply List.map_congr_left
    intro count member
    have bound := counts.le_largest_of_mem_present _ (List.mem_map_of_mem member)
    have product := Nat.lt_of_le_of_lt (Nat.mul_le_mul_left factor bound) fits
    rw [Function.comp_apply, Function.comp_apply, UInt64.toNat_ofNat', Nat.mod_eq_of_lt product]
  rw [largest, multiples]
  apply counts.foldl_max_map_present
  · intro smaller larger ordered
    exact Nat.mul_le_mul_left factor ordered
  · exact Nat.mul_zero factor

end ByteCounts

namespace SizeUnit

/-- The numbers of bytes that a unit is for. Nothing at all reads in megabytes. -/
def Suits (unit : SizeUnit) (bytes : Nat) : Prop :=
  let mega := TrafficMeter.megabyte
  match unit with
  | byte => 1 ≤ bytes ∧ bytes ≤ 1024
  | kilobyte => 1024 < bytes ∧ bytes < 2 * mega
  | megabyte => bytes = 0 ∨ 2 * mega ≤ bytes ∧ bytes < 1025 * mega
  | gigabyte => 1025 * mega ≤ bytes ∧ bytes < 1048577 * mega
  | terabyte => 1048577 * mega ≤ bytes

instance decidableSuits : (unit : SizeUnit) → (bytes : Nat) → Decidable (unit.Suits bytes)
  | byte, _ | kilobyte, _ | gigabyte, _ => inferInstanceAs (Decidable (_ ∧ _))
  | megabyte, _ => inferInstanceAs (Decidable (_ ∨ _))
  | terabyte, _ => inferInstanceAs (Decidable (_ ≤ _))

namespace Suits

variable {unit other : SizeUnit} {bytes more : Nat} (suits : unit.Suits bytes)

include suits

theorem unique (also : other.Suits bytes) : unit = other := by
  apply exponent_injective
  cases unit <;> cases other <;>
    simp only [Suits, TrafficMeter.megabyte, exponent] at * <;> omega

/-- More bytes are never for a smaller unit. -/
theorem le (above : other.Suits more) (positive : 1 ≤ bytes) (ordered : bytes ≤ more) :
    unit ≤ other := by
  change unit.exponent ≤ other.exponent
  cases unit <;> cases other <;>
    simp only [Suits, TrafficMeter.megabyte, exponent] at * <;> omega

end Suits

theorem suits_forValues (counts : ByteCounts) :
    (forValues counts.sizes).Suits counts.largest := by
  have megabytes_eq := counts.foldl_max_megabytes
  have lowBytes_eq := counts.foldl_max_lowBytes
  rw [List.reduceOption] at megabytes_eq lowBytes_eq
  unfold forValues
  dsimp only
  rw [megabytes_eq]
  -- from two megabytes on the low bytes are not looked at, and below that they are exact
  repeat' split
  all_goals
    simp only [Suits, TrafficMeter.megabyte, UInt32.size] at *
    omega

theorem forValues_eq_iff (counts : ByteCounts) (unit : SizeUnit) :
    forValues counts.sizes = unit ↔ unit.Suits counts.largest := by
  constructor
  · rintro rfl
    exact suits_forValues counts
  · exact (suits_forValues counts).unique

end SizeUnit

/-- The largest count alone decides the unit of a common axis, although the largest low bytes may
belong to another count. Larger counts are never shown in a smaller unit. -/
theorem unit_follows_largest (counts : ByteCounts) :
    (∀ unit, SizeUnit.forValues counts.sizes = unit ↔ unit.Suits counts.largest) ∧
      ∀ factor, 1 ≤ factor → factor * counts.largest < UInt64.size →
        SizeUnit.forValues counts.sizes ≤ SizeUnit.forValues (counts.scaled factor).sizes := by
  refine ⟨SizeUnit.forValues_eq_iff counts, ?_⟩
  intro factor positive fits
  have suits := SizeUnit.suits_forValues counts
  have above := SizeUnit.suits_forValues (counts.scaled factor)
  rw [counts.largest_scaled factor fits] at above
  by_cases nothing : counts.largest = 0
  · -- nothing remains nothing, whatever it is multiplied by
    rw [nothing, Nat.mul_zero] at above
    rw [nothing] at suits
    rw [suits.unique above]
    exact Nat.le_refl _
  · exact suits.le above (by omega) (Nat.le_mul_of_pos_left _ positive)

/-- The largest of three counts has wrapped around to a single byte, far below the others' bytes. -/
theorem unit_follows_largest_wrapped :
    let counts : ByteCounts := [some 700, none, some 4294967297, some 1048575]
    SizeUnit.gigabyte.Suits counts.largest ∧
      SizeUnit.forValues counts.sizes = .gigabyte ∧
      SizeUnit.forValues counts.sizes ≤ SizeUnit.forValues (counts.scaled 300).sizes := by
  intro counts
  obtain ⟨unit_iff, scales⟩ := unit_follows_largest counts
  have suits : SizeUnit.gigabyte.Suits counts.largest := by decide
  exact ⟨suits, (unit_iff .gigabyte).mpr suits, scales 300 (by decide) (by decide)⟩

end TrafficMeter
