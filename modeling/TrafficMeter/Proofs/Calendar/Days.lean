import TrafficMeter.Calendar.Date

set_option autoImplicit false

namespace TrafficMeter

theorem yearStart_le_yearStart (earlier later : Int) (ordered : earlier ≤ later) :
    yearStart earlier ≤ yearStart later := by
  simp only [yearStart]
  omega

/-- A year that begins before another one ends is no later. -/
theorem year_le_of_yearStart_lt (earlier later : Int)
    (before : yearStart earlier < yearStart (later + 1)) : earlier ≤ later := by
  by_cases after : later < earlier
  · have gap := yearStart_le_yearStart (later + 1) earlier (by omega)
    omega
  · omega

theorem yearInCalendar_iff (year : Int) :
    yearInCalendar year ↔ -262143 ≤ year ∧ year ≤ 262142 := by
  simp only [yearInCalendar, Bool.and_eq_true, decide_eq_true_eq]

namespace Month

theorem one_le_length (month : Month) : 1 ≤ month.length := by
  unfold length monthLength
  split
  · split <;> omega
  all_goals omega

theorem length_le (month : Month) : month.length ≤ 31 := by
  unfold length monthLength
  split
  · split <;> omega
  all_goals omega

/-- Later months begin later: one month further the start moves by the length of a month. -/
theorem firstDay_le_firstDay {earlier later : Month} (ordered : earlier ≤ later) :
    earlier.firstDay ≤ later.firstDay := by
  obtain ⟨count, reached⟩ := Int.le.dest (show earlier.ordinal ≤ later.ordinal from ordered)
  induction count generalizing later with
  | zero =>
    have same : earlier = later := by
      cases earlier
      cases later
      simpa using reached
    subst same
    exact Int.le_refl _
  | succ count ih =>
    have step := firstDay_next later.previous
    rw [next_previous] at step
    have shorter := @ih later.previous
      (show earlier.ordinal ≤ later.ordinal - 1 by omega)
      (show earlier.ordinal + count = later.ordinal - 1 by omega)
    omega

/-- A day lies in one month only. -/
theorem ofDay_eq_of_mem (month : Month) (day : Int) (start : month.firstDay ≤ day)
    (stop : day < month.firstDay + month.length) : ofDay day = month := by
  obtain ⟨foundStart, foundStop⟩ := ofDay_bounds day
  rw [← firstDay_next] at stop foundStop
  have not_before : ¬ (ofDay day).next ≤ month := by
    intro before
    have gap := firstDay_le_firstDay before
    omega
  have not_after : ¬ month.next ≤ ofDay day := by
    intro after
    have gap := firstDay_le_firstDay after
    omega
  change ¬ (ofDay day).ordinal + 1 ≤ month.ordinal at not_before
  change ¬ month.ordinal + 1 ≤ (ofDay day).ordinal at not_after
  have ordinal_eq : (ofDay day).ordinal = month.ordinal := by omega
  cases month
  cases found : ofDay day
  rw [found] at ordinal_eq
  exact congrArg Month.mk ordinal_eq

/-- January begins with its year. -/
theorem firstDay_january (year : Int) : (ofNumber year 1).firstDay = yearStart year := by
  simp only [firstDay, year_ofNumber year 1 (by omega) (by omega),
    number_ofNumber year 1 (by omega) (by omega)]
  cases isLeapYear year <;> simp [daysBeforeMonth]

theorem january_le (month : Month) : ofNumber month.year 1 ≤ month := by
  change 12 * month.year + ((1 : Nat) - 1 : Int) ≤ month.ordinal
  simp only [year]
  omega

theorem next_le_january (month : Month) : month.next ≤ ofNumber (month.year + 1) 1 := by
  change month.ordinal + 1 ≤ 12 * (month.year + 1) + ((1 : Nat) - 1 : Int)
  simp only [year]
  omega

theorem yearStart_le_firstDay (month : Month) : yearStart month.year ≤ month.firstDay := by
  rw [← firstDay_january]
  exact firstDay_le_firstDay (january_le month)

theorem firstDay_next_le (month : Month) : month.next.firstDay ≤ yearStart (month.year + 1) := by
  rw [← firstDay_january]
  exact firstDay_le_firstDay (next_le_january month)

/-- The days of a year are those from its first of January to the next. -/
theorem year_ofDay (day year : Int) (start : yearStart year ≤ day)
    (stop : day < yearStart (year + 1)) : (ofDay day).year = year := by
  obtain ⟨foundStart, foundStop⟩ := ofDay_bounds day
  rw [← firstDay_next] at foundStop
  have yearBegins := yearStart_le_firstDay (ofDay day)
  have yearEnds := firstDay_next_le (ofDay day)
  have lower := year_le_of_yearStart_lt year (ofDay day).year (by omega)
  have upper := year_le_of_yearStart_lt (ofDay day).year year (by omega)
  omega

theorem ofDay_le_ofDay (earlier later : Int) (ordered : earlier ≤ later) :
    ofDay earlier ≤ ofDay later := by
  have start := (ofDay_bounds earlier).1
  have stop := (ofDay_bounds later).2
  rw [← firstDay_next] at stop
  have not_after : ¬ (ofDay later).next ≤ ofDay earlier := by
    intro after
    have gap := firstDay_le_firstDay after
    omega
  change ¬ (ofDay later).ordinal + 1 ≤ (ofDay earlier).ordinal at not_after
  change (ofDay earlier).ordinal ≤ (ofDay later).ordinal
  omega

@[simp] theorem ofNumber_year_number (month : Month) :
    ofNumber month.year month.number = month := by
  cases month
  simp only [ofNumber, year, number, mk.injEq]
  omega

/-- Within one year the order of months is the order of their numbers. -/
theorem number_le_number {earlier later : Month} (ordered : earlier ≤ later)
    (same : earlier.year = later.year) : earlier.number ≤ later.number := by
  change earlier.ordinal ≤ later.ordinal at ordered
  simp only [year, number] at same ⊢
  omega

/-- The date of a month that comes `offset` days after its first. -/
def date (month : Month) (offset : Nat) (inside : offset < month.length) : Date where
  month := month
  day := offset + 1
  one_le_day := by omega
  day_le_length := by omega

@[simp] theorem epochDay_date (month : Month) (offset : Nat) (inside : offset < month.length) :
    (month.date offset inside).epochDay = month.firstDay + offset := by
  simp only [Date.epochDay, date]
  omega

/-- The days that fall in a month are those of its dates. -/
theorem ofDay_eq_iff (month : Month) (day : Int) :
    ofDay day = month ↔ ∃ (offset : Nat) (inside : offset < month.length),
      (month.date offset inside).epochDay = day := by
  constructor
  · rintro rfl
    have bounds := ofDay_bounds day
    refine ⟨(day - (ofDay day).firstDay).toNat, by omega, ?_⟩
    rw [epochDay_date]
    omega
  · rintro ⟨offset, inside, rfl⟩
    rw [epochDay_date]
    exact ofDay_eq_of_mem month _ (by omega) (by omega)

end Month

namespace Date

theorem ofEpochDay_firstDay_add (month : Month) (offset : Nat) (inside : offset < month.length) :
    ofEpochDay (month.firstDay + offset) = month.date offset inside := by
  have found : Month.ofDay (month.firstDay + offset) = month :=
    Month.ofDay_eq_of_mem month _ (by omega) (by omega)
  simp only [ofEpochDay, Month.date, found, mk.injEq, true_and]
  omega

theorem earliestDay_eq : earliestDay = yearStart (-262143) := by decide

theorem latestDay_eq : latestDay = yearStart (262142 + 1) - 1 := by decide

/-- A month of the calendar lies in it as a whole. -/
theorem inCalendar_of_month (month : Month) (known : yearInCalendar month.year) :
    earliestDay ≤ month.firstDay ∧ month.firstDay + month.length ≤ latestDay + 1 := by
  rw [yearInCalendar_iff] at known
  have start := Month.yearStart_le_firstDay month
  have stop := Month.firstDay_next_le month
  have first := yearStart_le_yearStart (-262143) month.year known.1
  have last := yearStart_le_yearStart (month.year + 1) (262142 + 1) (by omega)
  rw [Month.firstDay_next] at stop
  rw [earliestDay_eq, latestDay_eq]
  omega

theorem ofClampedDay_of_inside (day : Int) (lower : earliestDay ≤ day)
    (upper : day ≤ latestDay) : ofClampedDay day = ofEpochDay day := by
  have unchanged : max earliestDay (min latestDay day) = day := by omega
  rw [ofClampedDay, unchanged]

theorem ofClampedDay_firstDay_add (month : Month) (known : yearInCalendar month.year)
    (offset : Nat) (inside : offset < month.length) :
    ofClampedDay (month.firstDay + offset) = month.date offset inside := by
  have bounds := inCalendar_of_month month known
  rw [ofClampedDay_of_inside _ (by omega) (by omega), ofEpochDay_firstDay_add]

/-- A clamped day always falls in a month of the calendar. -/
theorem yearInCalendar_ofClampedDay (day : Int) :
    yearInCalendar (ofClampedDay day).month.year := by
  change yearInCalendar (Month.ofDay (max earliestDay (min latestDay day))).year
  have ordered : earliestDay ≤ latestDay := by decide
  have lower : earliestDay ≤ max earliestDay (min latestDay day) := by omega
  have upper : max earliestDay (min latestDay day) ≤ latestDay := by omega
  generalize max earliestDay (min latestDay day) = clamped at lower upper
  have bounds := Month.ofDay_bounds clamped
  have start := Month.yearStart_le_firstDay (Month.ofDay clamped)
  have stop := Month.firstDay_next_le (Month.ofDay clamped)
  rw [Month.firstDay_next] at stop
  rw [earliestDay_eq] at lower
  rw [latestDay_eq] at upper
  rw [yearInCalendar_iff]
  exact ⟨year_le_of_yearStart_lt _ _ (by omega), year_le_of_yearStart_lt _ _ (by omega)⟩

theorem yearInCalendar_getD_month (chosen : Option Month) (day : Int)
    (known : ∀ month ∈ chosen, yearInCalendar month.year) :
    yearInCalendar (chosen.getD (ofClampedDay day).month).year := by
  cases chosen with
  | none => exact yearInCalendar_ofClampedDay day
  | some month => exact known month rfl

theorem yearInCalendar_getD_year (chosen : Option Int) (day : Int)
    (known : ∀ year ∈ chosen, yearInCalendar year) :
    yearInCalendar (chosen.getD (ofClampedDay day).year) := by
  cases chosen with
  | none => exact yearInCalendar_ofClampedDay day
  | some year => exact known year rfl

end Date

namespace Month

theorem epochDay_firstDate (month : Month) (known : yearInCalendar month.year) :
    month.firstDate.epochDay = month.firstDay := by
  simp only [firstDate, known, ↓reduceIte, Date.epochDay_ofEpochDay]

/-- The last month of the calendar has no following one to step back from, but it ends with the
calendar all the same. -/
theorem epochDay_lastDate (month : Month) (known : yearInCalendar month.year) :
    month.lastDate.epochDay = month.firstDay + month.length - 1 := by
  have bounds := Date.inCalendar_of_month month known
  have positive := month.one_le_length
  by_cases followed : yearInCalendar month.next.year
  · have start := epochDay_firstDate month.next followed
    rw [firstDay_next] at start
    have later : Date.earliestDay < month.next.firstDate.epochDay := by omega
    simp only [lastDate, later, ↓reduceIte, Date.epochDay_ofEpochDay]
    omega
  · have year_eq : month.next.year = 262142 + 1 := by
      rw [yearInCalendar_iff] at known followed
      simp only [year, next] at known followed ⊢
      omega
    have start := yearStart_le_firstDay month.next
    rw [year_eq, firstDay_next] at start
    have latest_eq := Date.latestDay_eq
    have none_later : ¬ Date.earliestDay < month.next.firstDate.epochDay := by
      simp only [firstDate, followed, Bool.false_eq_true, ↓reduceIte, Date.earliest,
        Date.epochDay_ofEpochDay]
      omega
    simp only [lastDate, none_later, ↓reduceIte, Date.latest, Date.epochDay_ofEpochDay]
    omega

end Month

end TrafficMeter
