import Mathlib.Algebra.Field.Rat
import Mathlib.Algebra.Order.Ring.Nat
import TrafficMeter.Proofs.Size.UnitChoice
import TrafficMeter.Size.Text

set_option autoImplicit false

namespace TrafficMeter

namespace BinaryFraction

/-- The exact number. -/
def value (fraction : BinaryFraction) : ℚ := fraction.numerator / 2 ^ fraction.shift

theorem value_scaled (numerator shift exponent : Nat) :
    (⟨numerator * 2 ^ exponent, shift + exponent⟩ : BinaryFraction).value =
      (⟨numerator, shift⟩ : BinaryFraction).value := by
  simp only [value, Nat.cast_mul, Nat.cast_pow, Nat.cast_ofNat, pow_add]
  apply mul_div_mul_right
  exact pow_ne_zero exponent two_ne_zero

end BinaryFraction

namespace Size

/-- What is read off a size comes from its megabytes alone: other low bytes would not change it. -/
def IgnoresLowBytes {α : Type} (size : Size) (read : Size → α) : Prop :=
  ∀ lowBytes, read { size with lowBytes } = read size

/-- A reading that takes the low bytes below a number of megabytes, and rounds the megabytes from
there on. -/
structure CutsAt (limit : Nat) (round : Nat → Nat) (read : Size → BinaryFraction) : Prop where
  below : ∀ size, size.megabytes.toNat < limit → read size = ⟨size.lowBytes.toNat, 20⟩
  above : ∀ size, limit ≤ size.megabytes.toNat → read size = ⟨round size.megabytes.toNat, 0⟩

theorem cutsAt_inMegabytes : CutsAt 2000 id inMegabytes where
  below _ small := if_pos small
  above _ large := if_neg (Nat.not_lt.mpr large)

theorem cutsAt_shownMegabytes : CutsAt 100 roundToSignificand shownMegabytes where
  below _ small := if_pos small
  above _ large := if_neg (Nat.not_lt.mpr large)

theorem CutsAt.ignoresLowBytes {limit : Nat} {round : Nat → Nat} {read : Size → BinaryFraction}
    (cuts : CutsAt limit round read) (size : Size) (large : limit ≤ size.megabytes.toNat) :
    size.IgnoresLowBytes read := by
  intro lowBytes
  rw [cuts.above size large]
  exact cuts.above _ large

/-- The text of a size tells its shown megabytes and nothing else. -/
theorem ignoresLowBytes_text (size : Size) (large : 100 ≤ size.megabytes.toNat) :
    size.IgnoresLowBytes text := by
  intro lowBytes
  unfold text
  rw [cutsAt_shownMegabytes.ignoresLowBytes size large lowBytes]

/-- Below a number of megabytes a count is read from its low bytes, which are all of its bytes there;
from that number on, from its whole megabytes alone. -/
structure ReadsBelow (limit : Nat) (read : Size → BinaryFraction) (count : UInt64) : Prop where
  bytes : count.toNat < limit * megabyte →
    (ofBytes count).lowBytes.toNat = count.toNat ∧
      read (ofBytes count) = ⟨(ofBytes count).lowBytes.toNat, 20⟩
  whole : limit * megabyte ≤ count.toNat →
    (ofBytes count).IgnoresLowBytes read ∧ read (ofBytes count) = ⟨count.toNat / megabyte, 0⟩

section Counts

variable (count : UInt64)

/-- Below four gigabytes nothing wraps. -/
theorem lowBytes_ofBytes_of_lt (small : count.toNat < 4096 * megabyte) :
    (ofBytes count).lowBytes.toNat = count.toNat := by
  rw [toNat_lowBytes_ofBytes, Nat.mod_eq_of_lt]
  exact small

theorem le_megabytes_ofBytes_iff (limit : Nat) :
    limit ≤ (ofBytes count).megabytes.toNat ↔ limit * megabyte ≤ count.toNat := by
  rw [toNat_megabytes_ofBytes]
  exact Nat.le_div_iff_mul_le (by decide)

theorem CutsAt.readsBelow {limit : Nat} {round : Nat → Nat} {read : Size → BinaryFraction}
    (cuts : CutsAt limit round read) (early : limit ≤ 4096)
    (kept : round (count.toNat / megabyte) = count.toNat / megabyte) :
    ReadsBelow limit read count where
  bytes small := by
    refine ⟨lowBytes_ofBytes_of_lt count ?_, cuts.below _ ?_⟩
    · exact Nat.lt_of_lt_of_le small (Nat.mul_le_mul_right megabyte early)
    · rw [← Nat.not_le, le_megabytes_ofBytes_iff]
      exact Nat.not_le.mpr small
  whole large := by
    rw [← le_megabytes_ofBytes_iff] at large
    refine ⟨cuts.ignoresLowBytes _ large, ?_⟩
    rw [cuts.above _ large, toNat_megabytes_ofBytes, kept]

theorem readsBelow_inMegabytes : ReadsBelow 2000 inMegabytes count :=
  cutsAt_inMegabytes.readsBelow count (by decide) rfl

theorem readsBelow_shownMegabytes : ReadsBelow 100 shownMegabytes count := by
  have bound := count.toNat_lt
  have bits : count.toNat / megabyte < 2 ^ 53 := by
    simp only [megabyte]
    omega
  exact cutsAt_shownMegabytes.readsBelow count (by decide) (roundToSignificand_of_lt _ bits)

/-- The text of a count takes its low bytes only where they are all of its bytes. -/
theorem lowBytes_of_read_by_text (reads : ¬ (ofBytes count).IgnoresLowBytes text) :
    (ofBytes count).lowBytes.toNat = count.toNat := by
  apply ((readsBelow_shownMegabytes count).bytes _).1
  rw [← Nat.not_le, ← le_megabytes_ofBytes_iff]
  intro large
  exact reads (ignoresLowBytes_text _ large)

end Counts

end Size

namespace SizeUnit

/-- A number of bytes in the unit. -/
def amount (unit : SizeUnit) (bytes : Nat) : ℚ := bytes / 2 ^ unit.exponent

variable {unit : SizeUnit}

theorem Suits.lt_of_le_kilobyte {bytes : Nat} (suits : unit.Suits bytes)
    (small : unit ≤ .kilobyte) : bytes < 2 * TrafficMeter.megabyte := by
  change unit.exponent ≤ 10 at small
  cases unit <;> simp only [Suits, exponent, TrafficMeter.megabyte] at * <;> omega

theorem Suits.lt_of_le_megabyte {bytes : Nat} (suits : unit.Suits bytes)
    (small : unit ≤ .megabyte) : bytes < 1025 * TrafficMeter.megabyte := by
  change unit.exponent ≤ 20 at small
  cases unit <;> simp only [Suits, exponent, TrafficMeter.megabyte] at * <;> omega

theorem measure_of_le_kilobyte (size : Size) (small : unit ≤ .kilobyte) :
    unit.measure size = ⟨size.lowBytes.toNat, unit.exponent⟩ := by
  cases unit with
  | byte | kilobyte => rfl
  | megabyte | gigabyte | terabyte => exact absurd small (by decide)

theorem measure_of_gigabyte_le (size : Size) (large : .gigabyte ≤ unit) :
    unit.measure size = ⟨size.megabytes.toNat, unit.exponent - 20⟩ := by
  cases unit with
  | gigabyte | terabyte => rfl
  | byte | kilobyte | megabyte => exact absurd large (by decide)

theorem ignoresLowBytes_of_gigabyte_le (size : Size) (large : .gigabyte ≤ unit) :
    size.IgnoresLowBytes unit.measure := by
  intro lowBytes
  rw [measure_of_gigabyte_le _ large, measure_of_gigabyte_le _ large]

/-- Up to megabytes a count is plotted to the byte. -/
theorem measure_exact {count : UInt64} (small : unit ≤ .megabyte)
    (below : count.toNat < 1025 * TrafficMeter.megabyte) :
    unit.measure (Size.ofBytes count) = ⟨count.toNat, unit.exponent⟩ := by
  have fewer : count.toNat < 2000 * TrafficMeter.megabyte :=
    Nat.lt_of_lt_of_le below (Nat.mul_le_mul_right _ (by decide))
  obtain ⟨unwrapped, read⟩ := (Size.readsBelow_inMegabytes count).bytes fewer
  rw [unwrapped] at read
  cases unit with
  | byte | kilobyte => rw [measure_of_le_kilobyte _ (by decide), unwrapped]
  | megabyte => exact read
  | gigabyte | terabyte => exact absurd small (by decide)

/-- From gigabytes on it is plotted to the megabyte. -/
theorem value_measure_of_gigabyte_le (count : UInt64) (large : .gigabyte ≤ unit) :
    (unit.measure (Size.ofBytes count)).value =
      unit.amount (count.toNat / TrafficMeter.megabyte * TrafficMeter.megabyte) := by
  have exponent_eq : unit.exponent = unit.exponent - 20 + 20 := by
    change 30 ≤ unit.exponent at large
    omega
  rw [measure_of_gigabyte_le _ large, Size.toNat_megabytes_ofBytes,
    ← BinaryFraction.value_scaled _ _ 20, ← exponent_eq]
  rfl

end SizeUnit

/-- Wrapped low bytes are never shown. On a common axis, bytes and kilobytes are for small counts
alone, megabytes are read from the bytes only where these are exact, and larger units from the whole
megabytes; a size text does likewise. So all that is ever lost on the way to a plotted point is what
does not fill a megabyte. -/
theorem wrapped_bytes_never_shown (counts : ByteCounts) :
    let unit := SizeUnit.forValues counts.sizes
    (∀ count, some count ∈ counts →
      (unit ≤ .kilobyte → count.toNat < 2 * megabyte ∧
        (Size.ofBytes count).lowBytes.toNat = count.toNat ∧
        unit.measure (Size.ofBytes count) =
          ⟨(Size.ofBytes count).lowBytes.toNat, unit.exponent⟩) ∧
      (unit = .megabyte → Size.ReadsBelow 2000 unit.measure count) ∧
      (.gigabyte ≤ unit → (Size.ofBytes count).IgnoresLowBytes unit.measure)) ∧
    (∀ count, Size.ReadsBelow 100 Size.shownMegabytes count ∧
      (¬ (Size.ofBytes count).IgnoresLowBytes Size.text →
        (Size.ofBytes count).lowBytes.toNat = count.toNat)) ∧
    ∀ (index : Nat) (count : UInt64), counts[index]? = some (some count) →
      ∃ plotted, (unit.measureAll counts.sizes)[index]? = some (some plotted) ∧
        (unit ≤ .megabyte → plotted.value = unit.amount count.toNat) ∧
        (.gigabyte ≤ unit →
          plotted.value = unit.amount (count.toNat / megabyte * megabyte)) := by
  intro unit
  have suits := SizeUnit.suits_forValues counts
  refine ⟨?_, ?_, ?_⟩
  · intro count member
    refine ⟨?_, ?_, ?_⟩
    · intro small
      have below := Nat.lt_of_le_of_lt (counts.toNat_le_largest count member)
        (suits.lt_of_le_kilobyte small)
      refine ⟨below, Size.lowBytes_ofBytes_of_lt count ?_, SizeUnit.measure_of_le_kilobyte _ small⟩
      exact Nat.lt_of_lt_of_le below (Nat.mul_le_mul_right megabyte (by decide))
    · intro mega
      rw [mega]
      exact Size.readsBelow_inMegabytes count
    · exact SizeUnit.ignoresLowBytes_of_gigabyte_le _
  · intro count
    exact ⟨Size.readsBelow_shownMegabytes count, Size.lowBytes_of_read_by_text count⟩
  · intro index count found
    refine ⟨unit.measure (Size.ofBytes count), ?_, ?_, ?_⟩
    · rw [SizeUnit.measureAll, ByteCounts.sizes, List.getElem?_map, List.getElem?_map, found]
      rfl
    · intro small
      have below := Nat.lt_of_le_of_lt
        (counts.toNat_le_largest count (List.mem_of_getElem? found)) (suits.lt_of_le_megabyte small)
      rw [SizeUnit.measure_exact small below]
      rfl
    · exact SizeUnit.value_measure_of_gigabyte_le count

/-- The low bytes of the largest count read as a single byte, and the axis shows four gigabytes. An
axis without such a count shows one byte more than a megabyte to the byte. -/
theorem wrapped_bytes_never_shown_mixed :
    let counts : ByteCounts := [some 700, none, some 4294967297]
    let smaller : ByteCounts := [some 700, some 1048577]
    (Size.ofBytes 4294967297).lowBytes = 1 ∧
      (Size.ofBytes 4294967297).IgnoresLowBytes SizeUnit.gigabyte.measure ∧
      (∃ plotted, (SizeUnit.gigabyte.measureAll counts.sizes)[2]? = some (some plotted) ∧
        plotted.value = SizeUnit.gigabyte.amount 4294967296) ∧
      (Size.ofBytes 1048577).lowBytes.toNat = 1048577 ∧
      (∃ plotted, (SizeUnit.kilobyte.measureAll smaller.sizes)[1]? = some (some plotted) ∧
        plotted.value = SizeUnit.kilobyte.amount 1048577) := by
  intro counts smaller
  have unit_eq : SizeUnit.forValues counts.sizes = .gigabyte := by decide
  have smaller_unit_eq : SizeUnit.forValues smaller.sizes = .kilobyte := by decide
  have shown := wrapped_bytes_never_shown counts
  have smaller_shown := wrapped_bytes_never_shown smaller
  rw [unit_eq] at shown
  rw [smaller_unit_eq] at smaller_shown
  obtain ⟨reads, _, plots⟩ := shown
  obtain ⟨smaller_reads, _, smaller_plots⟩ := smaller_shown
  obtain ⟨plotted, plotted_eq, _, value_eq⟩ := plots 2 4294967297 rfl
  obtain ⟨smaller_plotted, smaller_plotted_eq, smaller_value_eq, _⟩ := smaller_plots 1 1048577 rfl
  exact ⟨by decide, (reads 4294967297 (by decide)).2.2 (by decide),
    ⟨plotted, plotted_eq, value_eq (by decide)⟩,
    ((smaller_reads 1048577 (by decide)).1 (by decide)).2.1,
    ⟨smaller_plotted, smaller_plotted_eq, smaller_value_eq (by decide)⟩⟩

end TrafficMeter
