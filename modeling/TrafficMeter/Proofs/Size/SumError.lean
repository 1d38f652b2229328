import TrafficMeter.Proofs.Size.ExactBytes
import TrafficMeter.Proofs.Size.Sums

set_option autoImplicit false

namespace TrafficMeter

namespace Size

/-- A size that byte counts add up to, one after the other or in groups, with any number of empty
sizes among them. -/
inductive AddsUp : List UInt64 → Size → Prop
  | nothing : AddsUp [] 0
  | count (bytes : UInt64) : AddsUp [bytes] (ofBytes bytes)
  | both {first second : List UInt64} {left right : Size} (begins : AddsUp first left)
      (ends : AddsUp second right) : AddsUp (first ++ second) (left + right)

theorem addsUp_sum (counts : List UInt64) : AddsUp counts (counts.map ofBytes).sum := by
  induction counts with
  | nil => exact .nothing
  | cons count rest ih =>
    rw [List.map_cons, List.sum_cons]
    exact .both (.count count) ih

theorem AddsUp.foldl {before : List UInt64} {start : Size} (begun : AddsUp before start)
    (counts : List UInt64) :
    AddsUp (before ++ counts) ((counts.map ofBytes).foldl (· + ·) start) := by
  induction counts generalizing before start with
  | nil =>
    rw [List.append_nil]
    exact begun
  | cons count rest ih =>
    rw [List.map_cons, List.foldl_cons, List.append_cons]
    exact ih (begun.both (.count count))

/-- A size that falls short of a number of bytes by less than a megabyte for each of its terms. -/
structure FallsShort (size : Size) (total terms : Nat) : Prop where
  lowBytes : size.lowBytes.toNat = total % UInt32.size
  upper : size.megabytes.toNat * megabyte ≤ total
  lower : total ≤ size.megabytes.toNat * megabyte + terms * (megabyte - 1)

theorem fallsShort_ofBytes (count : UInt64) : (ofBytes count).FallsShort count.toNat 1 where
  lowBytes := toNat_lowBytes_ofBytes count
  upper := by
    rw [toNat_megabytes_ofBytes]
    exact Nat.div_mul_le_self _ _
  lower := by
    rw [toNat_megabytes_ofBytes]
    simp only [megabyte]
    omega

namespace FallsShort

variable {left right size : Size} {some_total other_total total some_terms other_terms terms : Nat}

theorem add (first : left.FallsShort some_total some_terms)
    (second : right.FallsShort other_total other_terms)
    (fits : some_total + other_total < UInt64.size) :
    (left + right).FallsShort (some_total + other_total) (some_terms + other_terms) := by
  obtain ⟨lowBytes, upper, lower⟩ := first
  obtain ⟨other_lowBytes, other_upper, other_lower⟩ := second
  -- the megabytes are far from saturation
  have megabytes_eq : (left + right).megabytes.toNat =
      left.megabytes.toNat + right.megabytes.toNat := by
    rw [toNat_megabytes_add]
    simp only [megabyte, UInt64.size] at *
    omega
  refine ⟨?_, ?_, ?_⟩
  · rw [toNat_lowBytes_add, lowBytes, other_lowBytes]
    simp only [UInt32.size]
    omega
  · rw [megabytes_eq, Nat.add_mul]
    exact Nat.add_le_add upper other_upper
  · rw [megabytes_eq, Nat.add_mul, Nat.add_mul]
    omega

theorem megabytes_le (short : size.FallsShort total terms) :
    size.megabytes.toNat ≤ total / megabyte :=
  (Nat.le_div_iff_mul_le (by decide)).mpr short.upper

theorem div_le_megabytes_add (short : size.FallsShort total terms) (positive : 1 ≤ terms) :
    total / megabyte ≤ size.megabytes.toNat + (terms - 1) := by
  have lower := short.lower
  simp only [megabyte] at *
  omega

theorem lowBytes_eq (short : size.FallsShort total terms) (positive : 1 ≤ terms)
    (small : size.megabytes.toNat + terms ≤ 4096) : size.lowBytes.toNat = total := by
  have lower := short.lower
  rw [short.lowBytes, Nat.mod_eq_of_lt]
  simp only [megabyte, UInt32.size] at *
  omega

end FallsShort

theorem AddsUp.fallsShort {counts : List UInt64} {size : Size} (adds : AddsUp counts size)
    (fits : (counts.map UInt64.toNat).sum < UInt64.size) :
    size.FallsShort (counts.map UInt64.toNat).sum counts.length := by
  induction adds with
  | nothing => exact ⟨rfl, Nat.le_refl 0, Nat.le_refl 0⟩
  | count bytes => exact fallsShort_ofBytes bytes
  | both begins ends first second =>
    rw [List.map_append, List.sum_append] at fits ⊢
    rw [List.length_append]
    exact (first (by omega)).add (second (by omega)) fits

end Size

/-- Byte counts may be added up in any way: the sum keeps the low bytes, and falls short of the
bytes by less than a megabyte for each count but one. The low bytes of a year of days or less are
therefore exact wherever they are read. -/
theorem sums_fall_short (counts : List UInt64) (nonempty : counts ≠ [])
    (fits : (counts.map UInt64.toNat).sum < UInt64.size) :
    let total := (counts.map UInt64.toNat).sum
    Size.AddsUp counts (counts.map Size.ofBytes).sum ∧
      Size.AddsUp counts ((counts.map Size.ofBytes).foldl (· + ·) 0) ∧
      ∀ size, Size.AddsUp counts size →
        size.lowBytes.toNat = total % UInt32.size ∧
        total / megabyte ≤ size.megabytes.toNat + (counts.length - 1) ∧
        size.megabytes.toNat ≤ total / megabyte ∧
        (size.megabytes.toNat + counts.length ≤ 4096 → size.lowBytes.toNat = total) ∧
        (counts.length ≤ 366 →
          (size.megabytes.toNat < 2000 → size.inMegabytes = ⟨total, 20⟩) ∧
          (size.megabytes.toNat < 100 → size.shownMegabytes = ⟨total, 20⟩) ∧
          (¬ size.IgnoresLowBytes Size.inMegabytes ∨ ¬ size.IgnoresLowBytes Size.text →
            size.lowBytes.toNat = total)) := by
  intro total
  refine ⟨Size.addsUp_sum counts, Size.AddsUp.nothing.foldl counts, ?_⟩
  intro size adds
  have short := adds.fallsShort fits
  have positive := List.length_pos_of_ne_nil nonempty
  have exact_below : size.megabytes.toNat < 2000 → counts.length ≤ 366 →
      size.lowBytes.toNat = total :=
    fun small few => short.lowBytes_eq positive (by omega)
  refine ⟨short.lowBytes, short.div_le_megabytes_add positive, short.megabytes_le,
    short.lowBytes_eq positive, ?_⟩
  intro few
  refine ⟨?_, ?_, ?_⟩
  · intro small
    rw [Size.cutsAt_inMegabytes.below size small, exact_below small few]
  · intro small
    rw [Size.cutsAt_shownMegabytes.below size small, exact_below (by omega) few]
  · intro reads
    refine exact_below (Nat.lt_of_not_le fun large => ?_) few
    rcases reads with reads | reads
    · exact reads (Size.cutsAt_inMegabytes.ignoresLowBytes size large)
    · exact reads (Size.ignoresLowBytes_text size (Nat.le_trans (by decide) large))

/-- A leap year of days that each lack one byte of a megabyte: every megabyte is lost, as many as
can be, and the bytes are all there. -/
theorem sums_fall_short_leap_year :
    let counts : List UInt64 := List.replicate 366 1048575
    let size := (counts.map Size.ofBytes).sum
    size.megabytes = 0 ∧ (counts.map UInt64.toNat).sum / megabyte = 365 ∧
      size.inMegabytes = ⟨383778450, 20⟩ := by
  intro counts size
  have total_eq : (counts.map UInt64.toNat).sum = 383778450 := by
    rw [List.map_replicate, List.sum_replicate]
    rfl
  have fits : (counts.map UInt64.toNat).sum < UInt64.size := by
    rw [total_eq]
    decide
  have bounds := sums_fall_short counts (List.cons_ne_nil _ _) fits
  rw [total_eq] at bounds ⊢
  obtain ⟨adds, _, errors⟩ := bounds
  obtain ⟨_, _, upper, _, read⟩ := errors size adds
  have small : size.megabytes.toNat < 2000 := Nat.lt_of_le_of_lt upper (by decide)
  exact ⟨by decide +kernel, by decide, (read (Nat.le_of_eq List.length_replicate)).1 small⟩

end TrafficMeter
