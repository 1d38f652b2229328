import TrafficMeter.Proofs.Calendar.Days

set_option autoImplicit false

namespace TrafficMeter

namespace Date

/-- How the calendar goes on: to the next day of the month, from the last day of a month to the
first of the next one, and from the last of December to the first of January. -/
inductive FollowedBy (date following : Date) : Prop
  | inMonth (year : following.year = date.year)
      (number : following.month.number = date.month.number)
      (day : following.day = date.day + 1)
  | afterMonth (last : date.day = monthLength (isLeapYear date.year) date.month.number)
      (year : following.year = date.year)
      (number : following.month.number = date.month.number + 1)
      (first : following.day = 1)
  | afterYear (december : date.month.number = 12) (last : date.day = 31)
      (year : following.year = date.year + 1)
      (january : following.month.number = 1)
      (first : following.day = 1)

/-- The day that follows lies in the same month, or it is the first of the next month. -/
theorem followedBy_ofEpochDay (day : Int) :
    (ofEpochDay day).FollowedBy (ofEpochDay (day + 1)) := by
  obtain ⟨start, stop⟩ := Month.ofDay_bounds day
  by_cases inside : day + 1 < (Month.ofDay day).firstDay + (Month.ofDay day).length
  · have same : Month.ofDay (day + 1) = Month.ofDay day :=
      Month.ofDay_eq_of_mem _ _ (by omega) inside
    apply FollowedBy.inMonth
    · simp only [year, ofEpochDay, same]
    · simp only [ofEpochDay, same]
    · simp only [ofEpochDay, same]
      omega
  · have starts := Month.firstDay_next (Month.ofDay day)
    have positive := (Month.ofDay day).next.one_le_length
    have next : Month.ofDay (day + 1) = (Month.ofDay day).next :=
      Month.ofDay_eq_of_mem _ _ (by omega) (by omega)
    have last : (ofEpochDay day).day = (Month.ofDay day).length := by
      simp only [ofEpochDay]
      omega
    have first : (ofEpochDay (day + 1)).day = 1 := by
      simp only [ofEpochDay, next]
      omega
    rcases (Month.ofDay day).next_cases with ⟨year_eq, number_eq⟩ | ⟨december, year_eq, number_eq⟩
    · apply FollowedBy.afterMonth last _ _ first
      · simp only [year, ofEpochDay, next, year_eq]
      · simp only [ofEpochDay, next, number_eq]
    · have length_eq : (Month.ofDay day).length = 31 := by
        rw [Month.length, december]
        rfl
      apply FollowedBy.afterYear december (last.trans length_eq) _ _ first
      · simp only [year, ofEpochDay, next, year_eq]
      · simp only [ofEpochDay, next, number_eq]

@[simp] theorem ofEpochDay_epochDay (date : Date) : ofEpochDay date.epochDay = date := by
  have lower := date.one_le_day
  have upper := date.day_le_length
  have inside : date.day - 1 < date.month.length := by omega
  have day_eq : date.epochDay = date.month.firstDay + ((date.day - 1 : Nat) : Int) := by
    simp only [epochDay]
    omega
  rw [day_eq, ofEpochDay_firstDay_add date.month (date.day - 1) inside]
  cases date
  simp only [Month.date, mk.injEq, true_and]
  omega

@[simp] theorem ofDay_epochDay (date : Date) : Month.ofDay date.epochDay = date.month :=
  congrArg Date.month date.ofEpochDay_epochDay

/-- The calendar holds every date of its years. -/
theorem inCalendar_of_year (date : Date) (known : yearInCalendar date.year) : date.InCalendar := by
  have bounds := inCalendar_of_month date.month known
  have lower := date.one_le_day
  have upper := date.day_le_length
  simp only [InCalendar, epochDay]
  omega

theorem epochDay_ofClampedDay (day : Int) :
    (ofClampedDay day).epochDay = max earliestDay (min latestDay day) :=
  epochDay_ofEpochDay _

/-- Days and dates of the calendar correspond. Each day has a date that leads back to it, days
outside the calendar stop at its ends, each date has a day that leads back to it, and from day to
day the dates go on as the calendar does, beginning anywhere: day zero is the first of January
1970. -/
theorem days_and_dates_correspond :
    (∀ day : Int, yearInCalendar (ofClampedDay day).year ∧
        (ofClampedDay day).epochDay = max (-96465292) (min 95026236 day)) ∧
      (∀ date : Date, yearInCalendar date.year → ofClampedDay date.epochDay = date) ∧
      ((ofClampedDay 0).year = 1970 ∧ (ofClampedDay 0).month.number = 1 ∧
        (ofClampedDay 0).day = 1) ∧
      ∀ day : Int, -96465292 ≤ day → day + 1 ≤ 95026236 →
        (ofClampedDay day).FollowedBy (ofClampedDay (day + 1)) := by
  refine ⟨?_, ?_, by decide, ?_⟩
  · intro day
    exact ⟨yearInCalendar_ofClampedDay day, epochDay_ofClampedDay day⟩
  · intro date known
    obtain ⟨lower, upper⟩ := date.inCalendar_of_year known
    rw [ofClampedDay_of_inside _ lower upper, ofEpochDay_epochDay]
  · intro day lower upper
    have lower' : earliestDay ≤ day := lower
    have upper' : day + 1 ≤ latestDay := upper
    rw [ofClampedDay_of_inside day lower' (by omega),
      ofClampedDay_of_inside (day + 1) (by omega) upper']
    exact followedBy_ofEpochDay day

end Date

end TrafficMeter
