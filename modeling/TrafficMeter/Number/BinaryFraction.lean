import TrafficMeter.Number.Decimal

set_option autoImplicit false

namespace TrafficMeter

/-- The nearest whole quotient; a half goes to the even neighbour. -/
def roundDiv (numerator denominator : Nat) : Nat :=
  let whole := numerator / denominator
  let rest := numerator % denominator
  if denominator < 2 * rest ∨ (denominator = 2 * rest ∧ whole % 2 = 1) then whole + 1 else whole

theorem roundDiv_one (numerator : Nat) : roundDiv numerator 1 = numerator := by
  simp only [roundDiv, Nat.div_one, Nat.mod_one]
  rfl

/-- The nearest number of at most 53 significant bits. -/
def roundToSignificand (value : Nat) : Nat :=
  let step := Nat.pow 2 (value.log2 - 52)
  roundDiv value step * step

theorem roundToSignificand_of_lt (value : Nat) (small : value < Nat.pow 2 53) :
    roundToSignificand value = value := by
  have unscaled : value.log2 - 52 = 0 := by
    by_cases zero : value = 0
    · rw [zero]
      rfl
    · have bits : value.log2 < 53 := (Nat.log2_lt zero).mpr small
      omega
  rw [roundToSignificand, unscaled]
  show roundDiv value 1 * 1 = value
  rw [roundDiv_one, Nat.mul_one]

/-- The exact value `numerator / 2 ^ shift`. -/
structure BinaryFraction where
  numerator : Nat
  shift : Nat
deriving DecidableEq, Repr

namespace BinaryFraction

/-- At least a whole number. -/
def atLeast (fraction : BinaryFraction) (whole : Nat) : Bool :=
  whole * Nat.pow 2 fraction.shift ≤ fraction.numerator

/-- Divides by a power of two, which loses nothing. -/
def divPow (fraction : BinaryFraction) (exponent : Nat) : BinaryFraction :=
  ⟨fraction.numerator, fraction.shift + exponent⟩

/-- The nearest value whose numerator has at most 53 significant bits. -/
def toSignificand (fraction : BinaryFraction) : BinaryFraction :=
  ⟨roundToSignificand fraction.numerator, fraction.shift⟩

/-- The pattern of the nearest IEEE double. Meant for shifts up to 1022, below which no value is
too small for a full significand, and for values below `2 ^ 1023`. -/
def bits (fraction : BinaryFraction) : UInt64 :=
  let rounded := roundToSignificand fraction.numerator
  if rounded = 0 then 0
  else
    let exponent := rounded.log2
    let significand := rounded * Nat.pow 2 52 / Nat.pow 2 exponent
    UInt64.ofNat ((exponent + 1023 - fraction.shift) * Nat.pow 2 52 + (significand - Nat.pow 2 52))

/-- Decimal text with a fixed number of places, correctly rounded, a half to even. -/
def fixed (places : Nat) (fraction : BinaryFraction) : List Char :=
  let scaled := roundDiv (fraction.numerator * Nat.pow 10 places) (Nat.pow 2 fraction.shift)
  let whole := Decimal.digits (scaled / Nat.pow 10 places)
  if places = 0 then whole else whole ++ '.' :: Decimal.padded places (scaled % Nat.pow 10 places)

end BinaryFraction

end TrafficMeter
