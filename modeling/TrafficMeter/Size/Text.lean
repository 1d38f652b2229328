import TrafficMeter.Size.Unit

set_option autoImplicit false

namespace TrafficMeter

/-- How sizes from a number of megabytes on are written. -/
structure SizeStep where
  fromMegabytes : Nat
  unit : SizeUnit
  /-- Megabytes in the unit, as a power of two. -/
  exponent : Nat
  places : Nat
deriving DecidableEq, Repr

/-- About three significant digits, from the largest step down. -/
def sizeSteps : List SizeStep := [
  ⟨100 * 1024 * 1024, .terabyte, 20, 0⟩,
  ⟨10 * 1024 * 1024, .terabyte, 20, 1⟩,
  ⟨1000 * 1024, .terabyte, 20, 2⟩,
  ⟨100 * 1024, .gigabyte, 10, 0⟩,
  ⟨10 * 1024, .gigabyte, 10, 1⟩,
  ⟨1000, .gigabyte, 10, 2⟩,
  ⟨100, .megabyte, 0, 0⟩,
  ⟨10, .megabyte, 0, 1⟩]

/-- The step below all others. -/
def smallestStep : SizeStep := ⟨0, .megabyte, 0, 2⟩

/-- The megabytes a size text shows: exact bytes below a hundred megabytes, and from there on the
whole megabytes, to the 53 bits of a double. -/
def Size.shownMegabytes (size : Size) : BinaryFraction :=
  if size.megabytes.toNat < 100 then ⟨size.lowBytes.toNat, 20⟩
  else (⟨size.megabytes.toNat, 0⟩ : BinaryFraction).toSignificand

def Size.text (size : Size) : String :=
  let shown := size.shownMegabytes
  let step := (sizeSteps.find? (shown.atLeast ·.fromMegabytes)).getD smallestStep
  String.ofList ((shown.divPow step.exponent).fixed step.places) ++ " " ++ step.unit.symbol

/-- A size beside its text; absent data has a text of its own. -/
structure Counter where
  display : String
  raw : Option Size
deriving DecidableEq, Repr

def Counter.ofSize (size : Option Size) : Counter :=
  ⟨(size.map Size.text).getD "no data", size⟩

end TrafficMeter
