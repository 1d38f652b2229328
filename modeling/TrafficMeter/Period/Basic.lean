import TrafficMeter.Calendar.Text

set_option autoImplicit false

namespace TrafficMeter

/-- A calendar month or a whole year that a chart can show. -/
inductive Period
  | month (month : Month)
  | year (year : Int)
deriving DecidableEq, Repr

namespace Period

/-- A year outside the calendar begins with the calendar. -/
def firstDate : Period → Date
  | .month shown => shown.firstDate
  | .year shown => if yearInCalendar shown then Date.ofEpochDay (yearStart shown) else Date.earliest

/-- A year outside the calendar ends with the calendar. -/
def lastDate : Period → Date
  | .month shown => shown.lastDate
  | .year shown =>
    if yearInCalendar shown then Date.ofEpochDay (yearStart (shown + 1) - 1) else Date.latest

/-- What the period is called in menus and titles. -/
def caption : Period → String
  | .month shown => shown.caption
  | .year shown => Decimal.signedText shown

/-- The period as it is entered: `YYYY-MM` or `YYYY`. -/
def text : Period → List Char
  | .month shown => shown.text
  | .year shown => Decimal.signed 4 shown

def id (period : Period) : String := String.ofList period.text

end Period

/-- The years accepted when a period is entered by hand. -/
structure YearLimits where
  first : Int
  last : Int
deriving DecidableEq, Repr

namespace YearLimits

def standard : YearLimits := ⟨2013, 2050⟩

def contains (limits : YearLimits) (year : Int) : Bool :=
  limits.first ≤ year && year ≤ limits.last

end YearLimits

end TrafficMeter
