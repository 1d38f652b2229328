import TrafficMeter.Number.Decimal

set_option autoImplicit false

namespace TrafficMeter

/-- A number as decimals write it: `digits * 10 ^ exponent`, with a sign that zero has too. -/
structure DecimalReal where
  negative : Bool
  digits : Nat
  exponent : Int
deriving DecidableEq, Repr

/-- From here on a value rounds to infinity as a double. -/
def doubleOverflow : Nat := Nat.pow 2 1024 - Nat.pow 2 970

namespace DecimalReal

/-- Not too large for a double. The place of the first digit settles all but the border. -/
def isFinite (real : DecimalReal) : Bool :=
  let places := (Decimal.digits real.digits).length + real.exponent
  if real.digits = 0 ∨ places ≤ 300 then true
  else if 310 < places then false
  else if 0 ≤ real.exponent then real.digits * Nat.pow 10 real.exponent.toNat < doubleOverflow
  else real.digits < doubleOverflow * Nat.pow 10 (-real.exponent).toNat

end DecimalReal

end TrafficMeter
