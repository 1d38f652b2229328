import TrafficMeter.Period.Basic
import TrafficMeter.Proofs.Calendar.Succession

set_option autoImplicit false

namespace TrafficMeter

namespace Date

/-- Dates are compared as they are written: by year, then by month, then by day. -/
instance : LE Date where
  le earlier later := earlier.year < later.year ∨
    (earlier.year = later.year ∧ (earlier.month.number < later.month.number ∨
      (earlier.month.number = later.month.number ∧ earlier.day ≤ later.day)))

instance (earlier later : Date) : Decidable (earlier ≤ later) :=
  inferInstanceAs (Decidable (_ ∨ _))

theorem le_iff_month (earlier later : Date) :
    earlier ≤ later ↔ earlier.month.ordinal < later.month.ordinal ∨
      (earlier.month.ordinal = later.month.ordinal ∧ earlier.day ≤ later.day) := by
  show (_ ∨ _) ↔ _
  simp only [year, Month.year, Month.number]
  omega

/-- Every date of a month comes before every date of a later month. -/
theorem epochDay_lt_of_month_lt (earlier later : Date)
    (ordered : earlier.month.ordinal < later.month.ordinal) :
    earlier.epochDay < later.epochDay := by
  have starts : earlier.month.next.firstDay ≤ later.month.firstDay :=
    Month.firstDay_le_firstDay
      (show earlier.month.ordinal + 1 ≤ later.month.ordinal from ordered)
  rw [Month.firstDay_next] at starts
  have inside := earlier.day_le_length
  have positive := later.one_le_day
  simp only [epochDay]
  omega

/-- The order of the written dates is the order of the days. -/
theorem le_iff_epochDay (earlier later : Date) :
    earlier ≤ later ↔ earlier.epochDay ≤ later.epochDay := by
  rw [le_iff_month]
  -- within a month the days decide, and months do not overlap
  rcases Int.lt_trichotomy earlier.month.ordinal later.month.ordinal with before | same | after
  · have days := epochDay_lt_of_month_lt earlier later before
    omega
  · have month_eq : earlier.month = later.month := by
      cases first : earlier.month
      cases second : later.month
      rw [first, second] at same
      exact congrArg Month.mk same
    simp only [epochDay, month_eq, Int.lt_irrefl, false_or, true_and]
    omega
  · have days := epochDay_lt_of_month_lt later earlier after
    omega

/-- The dates of a month are those from its first to its last. -/
theorem month_eq_iff (date : Date) (month : Month) (known : yearInCalendar month.year) :
    date.month = month ↔ month.firstDate ≤ date ∧ date ≤ month.lastDate := by
  rw [le_iff_epochDay, le_iff_epochDay, month.epochDay_firstDate known,
    month.epochDay_lastDate known]
  constructor
  · rintro rfl
    have lower := date.one_le_day
    have upper := date.day_le_length
    simp only [epochDay]
    omega
  · intro between
    rw [← ofDay_epochDay]
    exact Month.ofDay_eq_of_mem month _ between.1 (by omega)

theorem year_eq_iff (date : Date) (shown : Int) (known : yearInCalendar shown) :
    date.year = shown ↔
      (Period.year shown).firstDate ≤ date ∧ date ≤ (Period.year shown).lastDate := by
  simp only [le_iff_epochDay, Period.firstDate, Period.lastDate, known, ↓reduceIte,
    epochDay_ofEpochDay]
  constructor
  · rintro rfl
    have start := Month.yearStart_le_firstDay date.month
    have stop := Month.firstDay_next_le date.month
    have lower := date.one_le_day
    have upper := date.day_le_length
    rw [Month.firstDay_next] at stop
    simp only [epochDay, year]
    omega
  · intro between
    rw [year, ← ofDay_epochDay]
    exact Month.year_ofDay _ shown between.1 (by omega)

/-- No day lies between two months that follow each other. -/
theorem followedBy_firstDate_next (month : Month) (known : yearInCalendar month.year)
    (followed : yearInCalendar month.next.year) :
    month.lastDate.FollowedBy month.next.firstDate := by
  have last := month.epochDay_lastDate known
  have first := month.next.epochDay_firstDate followed
  have day_eq : month.next.firstDate.epochDay = month.lastDate.epochDay + 1 := by
    rw [first, last, Month.firstDay_next]
    omega
  have step := followedBy_ofEpochDay month.lastDate.epochDay
  rwa [← day_eq, ofEpochDay_epochDay, ofEpochDay_epochDay] at step

/-- Months and years divide the calendar among them. Each month that can be named holds the dates
from its first to its last, and so does each year, at the ends of the calendar too. Months go on
without a gap, and a step on and a step back undo each other. -/
theorem months_and_years_divide_calendar :
    (∀ (year : Int) (number : Nat) (month : Month), Month.ofNumber? year number = some month →
      (∀ date : Date,
        Month.ofDate date = month ↔ month.firstDate ≤ date ∧ date ≤ month.lastDate) ∧
      month.next.previous = month ∧ month.previous.next = month ∧
      (yearInCalendar month.next.year → month.lastDate.FollowedBy month.next.firstDate)) ∧
    ∀ shown : Int, yearInCalendar shown → ∀ date : Date, date.year = shown ↔
      (Period.year shown).firstDate ≤ date ∧ date ≤ (Period.year shown).lastDate := by
  constructor
  · intro year number month named
    obtain ⟨known, _, _⟩ := (Month.ofNumber?_eq_some_iff year number month).mp named
    exact ⟨fun date => month_eq_iff date month known, month.previous_next, month.next_previous,
      followedBy_firstDate_next month known⟩
  · intro shown known date
    exact year_eq_iff date shown known

/-- The last month has no next one in the calendar but ends with it, as does the last year, and the
first month begins with it. A February of 29 days is followed by March. -/
theorem months_and_years_divide_calendar_ends :
    Month.ofNumber? 262142 12 = some (.ofNumber 262142 12) ∧
      ¬ yearInCalendar (Month.ofNumber 262142 12).next.year ∧
      latest ≤ (Month.ofNumber 262142 12).lastDate ∧
      latest ≤ (Period.year 262142).lastDate ∧
      Month.ofNumber? (-262143) 1 = some (.ofNumber (-262143) 1) ∧
      (Month.ofNumber (-262143) 1).firstDate ≤ earliest ∧
      Month.ofNumber? 2020 2 = some (.ofNumber 2020 2) ∧
      (Month.ofNumber 2020 2).lastDate.day = 29 ∧
      (Month.ofNumber 2020 2).lastDate.FollowedBy (Month.ofNumber 2020 3).firstDate := by
  obtain ⟨months, years⟩ := months_and_years_divide_calendar
  obtain ⟨december, _⟩ := months 262142 12 (.ofNumber 262142 12) (by decide)
  obtain ⟨january, _⟩ := months (-262143) 1 (.ofNumber (-262143) 1) (by decide)
  obtain ⟨_, _, _, march⟩ := months 2020 2 (.ofNumber 2020 2) (by decide)
  exact ⟨by decide, by decide, ((december latest).mp (by decide)).2,
    ((years 262142 (by decide) latest).mp (by decide)).2, by decide,
    ((january earliest).mp (by decide)).1, by decide, by decide, march (by decide)⟩

end Date

end TrafficMeter
