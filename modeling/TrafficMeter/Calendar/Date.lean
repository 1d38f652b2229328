import TrafficMeter.Calendar.Month

set_option autoImplicit false

namespace TrafficMeter

/-- A date of the proleptic Gregorian calendar. -/
structure Date where
  month : Month
  day : Nat
  one_le_day : 1 ≤ day
  day_le_length : day ≤ month.length
deriving DecidableEq, Repr

namespace Date

def year (date : Date) : Int := date.month.year

/-- Days since the first of January 1970. -/
def epochDay (date : Date) : Int := date.month.firstDay + (date.day - 1)

def ofEpochDay (epochDay : Int) : Date where
  month := Month.ofDay epochDay
  day := (epochDay - (Month.ofDay epochDay).firstDay).toNat + 1
  one_le_day := by omega
  day_le_length := by
    have bounds := Month.ofDay_bounds epochDay
    omega

@[simp] theorem epochDay_ofEpochDay (day : Int) : (ofEpochDay day).epochDay = day := by
  have start := Month.firstDay_ofDay_le day
  simp only [epochDay, ofEpochDay]
  omega

/-- Sunday is zero. -/
def weekday (date : Date) : Nat := ((date.epochDay + 4) % 7).toNat

/-- Epoch day of the first of January in the year -262143, where the calendar begins. -/
def earliestDay : Int := -96465292

/-- Epoch day of the last of December in the year 262142, where the calendar ends. -/
def latestDay : Int := 95026236

def earliest : Date := ofEpochDay earliestDay

def latest : Date := ofEpochDay latestDay

/-- Days outside the calendar read as its first or last date. -/
def ofClampedDay (epochDay : Int) : Date :=
  ofEpochDay (max earliestDay (min latestDay epochDay))

/-- A date that the calendar holds. -/
def InCalendar (date : Date) : Prop :=
  earliestDay ≤ date.epochDay ∧ date.epochDay ≤ latestDay

instance (date : Date) : Decidable date.InCalendar := inferInstanceAs (Decidable (_ ∧ _))

end Date

/-- The calendar holds whole years only. -/
def yearInCalendar (year : Int) : Bool := -262143 ≤ year && year ≤ 262142

namespace Month

/-- A numbered month of a year, if the calendar holds it. -/
def ofNumber? (year : Int) (number : Nat) : Option Month :=
  if yearInCalendar year ∧ 1 ≤ number ∧ number ≤ 12 then some (ofNumber year number) else none

theorem ofNumber?_eq_some_iff (year : Int) (number : Nat) (month : Month) :
    ofNumber? year number = some month ↔
      yearInCalendar month.year ∧ month.year = year ∧ month.number = number := by
  have lower := month.one_le_number
  have upper := month.number_le
  constructor
  · intro found
    simp only [ofNumber?] at found
    split at found
    · rename_i valid
      cases found
      rw [year_ofNumber year number valid.2.1 valid.2.2,
        number_ofNumber year number valid.2.1 valid.2.2]
      exact ⟨valid.1, rfl, rfl⟩
    · cases found
  · rintro ⟨known, rfl, rfl⟩
    simp only [ofNumber?, known, lower, upper, and_self, ↓reduceIte, ofNumber, Option.some.injEq]
    cases month
    simp only [year, number, Month.mk.injEq]
    omega

/-- First date of the month; a month outside the calendar begins with the calendar. -/
def firstDate (month : Month) : Date :=
  if yearInCalendar month.year then Date.ofEpochDay month.firstDay else Date.earliest

/-- The date before the following month; where that does not exist, the last of the calendar. -/
def lastDate (month : Month) : Date :=
  let following := month.next.firstDate.epochDay
  if Date.earliestDay < following then Date.ofEpochDay (following - 1) else Date.latest

def ofDate (date : Date) : Month := date.month

def names : List String :=
  ["January", "February", "March", "April", "May", "June", "July", "August", "September",
    "October", "November", "December"]

def nameOf (number : Nat) : String := names.getD (number - 1) ""

def name (month : Month) : String := nameOf month.number

end Month

end TrafficMeter
