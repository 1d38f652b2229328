import TrafficMeter.Period.Basic

set_option autoImplicit false

namespace TrafficMeter

/-- The kinds of range that can be asked for by name. -/
inductive RangeKind
  | minute
  | hour
  | day
  | month
  | year
deriving DecidableEq, Repr

def RangeKind.text : RangeKind → String
  | minute => "minute"
  | hour => "hour"
  | day => "day"
  | month => "month"
  | year => "year"

/-- The minute has a short name too. -/
def RangeKind.ofText? (text : String) : Option RangeKind :=
  match text with
  | "minute" | "min" => some .minute
  | "hour" => some .hour
  | "day" => some .day
  | "month" => some .month
  | "year" => some .year
  | _ => none

/-- What a chart shows. A month or year that is not given is the one of the newest day. -/
inductive ChartRange
  | lastMinute
  | lastHour
  | lastDay
  | month (month : Option Month)
  | year (year : Option Int)
deriving DecidableEq, Repr

namespace ChartRange

def kind : ChartRange → RangeKind
  | lastMinute => .minute
  | lastHour => .hour
  | lastDay => .day
  | month _ => .month
  | year _ => .year

/-- The range of a kind that names no period. -/
def ofKind : RangeKind → ChartRange
  | .minute => lastMinute
  | .hour => lastHour
  | .day => lastDay
  | .month => month none
  | .year => year none

def ofPeriod : Period → ChartRange
  | .month shown => month (some shown)
  | .year shown => year (some shown)

/-- The period that the range names itself. -/
def period? : ChartRange → Option Period
  | month (some shown) => some (.month shown)
  | year (some shown) => some (.year shown)
  | _ => none

end ChartRange

/-- Why a period was refused. -/
inductive PeriodFault
  | malformed (input : String)
  | yearOutside (year : Int) (limits : YearLimits)
  | monthOutside (number : Nat)
  | mismatch (period : Period) (kind : RangeKind)
deriving DecidableEq, Repr

/-- Combines a kind of range and a period, of which either may be missing. A period alone brings its
own range, and the fixed ranges take no notice of one. -/
def ChartRange.ofParts (kind : Option RangeKind) (period : Option Period) :
    Except PeriodFault ChartRange :=
  match kind, period with
  | none, none => .ok .lastMinute
  | none, some shown => .ok (.ofPeriod shown)
  | some .month, some (.month shown) => .ok (.month (some shown))
  | some .month, some (.year shown) => .error (.mismatch (.year shown) .month)
  | some .year, some (.year shown) => .ok (.year (some shown))
  | some .year, some (.month shown) => .error (.mismatch (.month shown) .year)
  | some named, _ => .ok (.ofKind named)

end TrafficMeter
