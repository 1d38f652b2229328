import TrafficMeter.Calendar.Date
import TrafficMeter.Number.Decimal

set_option autoImplicit false

namespace TrafficMeter

/-- A year of dates: four digits from 0 to 9999, and a sign before at least four digits for the
years on either side. -/
def yearText (year : Int) : List Char :=
  if 0 ≤ year ∧ year ≤ 9999 then Decimal.padded 4 year.toNat
  else (if year < 0 then '-' else '+') :: Decimal.padded 4 year.natAbs

namespace Date

def text (date : Date) : List Char :=
  yearText date.year ++ '-' :: Decimal.padded 2 date.month.number ++
    '-' :: Decimal.padded 2 date.day

def weekdayNames : List String := ["Sun", "Mon", "Tue", "Wed", "Thu", "Fri", "Sat"]

/-- The date with its weekday, as shown when a point is pointed at. -/
def label (date : Date) : String :=
  weekdayNames.getD date.weekday "" ++ " " ++
    String.ofList (date.month.name.toList.take 3) ++ " " ++
    String.ofList (Decimal.padded 2 date.day ++ ' ' :: yearText date.year)

end Date

/-- The month as a period: the sign of a year before zero takes one of its four places. -/
def Month.text (month : Month) : List Char :=
  Decimal.signed 4 month.year ++ '-' :: Decimal.padded 2 month.number

/-- Month name and plain year. -/
def Month.caption (month : Month) : String :=
  month.name ++ " " ++ Decimal.signedText month.year

/-- A clock a fixed number of seconds east of UTC. -/
structure Zone where
  eastSeconds : Int
deriving DecidableEq, Repr

namespace Zone

def utc : Zone := ⟨0⟩

/-- The first second of the calendar in UTC. -/
def earliestSecond : Int := -8334601228800

/-- The last second of the calendar in UTC. -/
def latestSecond : Int := 8210266876799

/-- Date and time of day of a number of seconds since 1970 on the clock's own face. -/
def civilText (seconds : Int) : List Char :=
  let ofDay := (seconds % 86400).toNat
  (Date.ofEpochDay (seconds / 86400)).text ++ ' ' :: Decimal.padded 2 (ofDay / 3600) ++
    ':' :: Decimal.padded 2 (ofDay / 60 % 60) ++ ':' :: Decimal.padded 2 (ofDay % 60)

/-- Local text of a Unix time. Zero stands for no time at all, and times outside the calendar
keep their plain number. -/
def timeText (zone : Zone) (unixSeconds : Int) : String :=
  if unixSeconds = 0 then "never"
  else if earliestSecond ≤ unixSeconds ∧ unixSeconds ≤ latestSecond then
    String.ofList (civilText (unixSeconds + zone.eastSeconds))
  else Decimal.signedText unixSeconds

end Zone

end TrafficMeter
