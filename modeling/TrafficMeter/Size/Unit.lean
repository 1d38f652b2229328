import TrafficMeter.Number.BinaryFraction
import TrafficMeter.Size.Basic

set_option autoImplicit false

namespace TrafficMeter

/-- The unit of a value axis, smallest first. -/
inductive SizeUnit
  | byte
  | kilobyte
  | megabyte
  | gigabyte
  | terabyte
deriving DecidableEq, Repr

/-- Below this many megabytes the low bytes are exact and preferred. -/
def exactBytesLimit : Nat := 2000

/-- The size in megabytes, from its exact bytes while they can be trusted. -/
def Size.inMegabytes (size : Size) : BinaryFraction :=
  if size.megabytes.toNat < exactBytesLimit then ⟨size.lowBytes.toNat, 20⟩
  else ⟨size.megabytes.toNat, 0⟩

namespace SizeUnit

def all : List SizeUnit := [byte, kilobyte, megabyte, gigabyte, terabyte]

def symbol : SizeUnit → String
  | byte => "B"
  | kilobyte => "KB"
  | megabyte => "MB"
  | gigabyte => "GB"
  | terabyte => "TB"

/-- Bytes in the unit, as a power of two. -/
def exponent : SizeUnit → Nat
  | byte => 0
  | kilobyte => 10
  | megabyte => 20
  | gigabyte => 30
  | terabyte => 40

theorem exponent_injective (unit other : SizeUnit) (same : unit.exponent = other.exponent) :
    unit = other := by
  revert same
  cases unit <;> cases other <;> decide

/-- A unit is at most another if it has no more bytes. -/
instance : LE SizeUnit where
  le left right := left.exponent ≤ right.exponent

instance (left right : SizeUnit) : Decidable (left ≤ right) :=
  inferInstanceAs (Decidable (left.exponent ≤ right.exponent))

/-- The size as a number of units. Bytes and kilobytes read the low part alone, gigabytes and
terabytes the megabytes alone. -/
def measure (unit : SizeUnit) (size : Size) : BinaryFraction :=
  match unit with
  | byte => ⟨size.lowBytes.toNat, 0⟩
  | kilobyte => ⟨size.lowBytes.toNat, 10⟩
  | megabyte => size.inMegabytes
  | gigabyte => ⟨size.megabytes.toNat, 10⟩
  | terabyte => ⟨size.megabytes.toNat, 20⟩

def measureAll (unit : SizeUnit) (values : List (Option Size)) : List (Option BinaryFraction) :=
  values.map (Option.map unit.measure)

/-- The unit for values that share an axis, from the largest megabytes and the largest low bytes
among them, which may belong to different values. Nothing but zeros reads in megabytes. -/
def forValues (values : List (Option Size)) : SizeUnit :=
  let present := values.filterMap id
  let megabytes : Nat := (present.map (·.megabytes.toNat)).foldl max 0
  let lowBytes : Nat := (present.map (·.lowBytes.toNat)).foldl max 0
  if 1024 * 1024 < megabytes then terabyte
  else if 1024 < megabytes then gigabyte
  else if 1 < megabytes ∨ lowBytes = 0 then megabyte
  else if 1024 < lowBytes then kilobyte
  else byte

end SizeUnit

end TrafficMeter
