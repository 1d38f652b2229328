set_option autoImplicit false

namespace TrafficMeter

/-- The 4/100/400 rule, extended to every year, year zero and the years before it included. -/
def isLeapYear (year : Int) : Bool :=
  year % 4 == 0 && (year % 100 != 0 || year % 400 == 0)

/-- Epoch day of the first of January; epoch day zero is the first of January 1970. -/
def yearStart (year : Int) : Int :=
  365 * (year - 1) + (year - 1) / 4 - (year - 1) / 100 + (year - 1) / 400 - 719162

def yearLength (leap : Bool) : Nat := if leap then 366 else 365

theorem yearStart_succ (year : Int) :
    yearStart (year + 1) = yearStart year + yearLength (isLeapYear year) := by
  simp only [yearStart, yearLength, isLeapYear, Bool.and_eq_true, Bool.or_eq_true, beq_iff_eq,
    bne_iff_ne]
  split <;> omega

/-- The year that an epoch day falls in: the mean year length misses it by one at most. -/
def yearOfDay (day : Int) : Int :=
  let guess := 400 * (day + 719162) / 146097 + 1
  if day < yearStart guess then guess - 1
  else if yearStart (guess + 1) ≤ day then guess + 1
  else guess

theorem yearStart_yearOfDay_le (day : Int) : yearStart (yearOfDay day) ≤ day := by
  unfold yearOfDay yearStart
  dsimp only
  split
  · omega
  · split <;> omega

theorem lt_yearStart_yearOfDay (day : Int) : day < yearStart (yearOfDay day + 1) := by
  unfold yearOfDay yearStart
  dsimp only
  split
  · omega
  · split <;> omega

/-- Days of a numbered month: thirty in April, June, September and November; February has 28 or,
in a leap year, 29. -/
def monthLength (leap : Bool) (number : Nat) : Nat :=
  match number with
  | 2 => if leap then 29 else 28
  | 4 | 6 | 9 | 11 => 30
  | _ => 31

/-- Days of the year before a numbered month: the rounded mean of the month starts, less the days
by which February falls short of thirty. -/
def daysBeforeMonth (leap : Bool) (number : Nat) : Nat :=
  (367 * number - 362) / 12 - (if number ≤ 2 then 0 else if leap then 1 else 2)

/-- Number of the month in which the day after `prior` days of a year falls: once the days by
which February falls short are made up, the months are even enough for one division. -/
def monthAfter (leap : Bool) (prior : Nat) : Nat :=
  let shortfall := if prior < (if leap then 60 else 59) then 0 else if leap then 1 else 2
  (12 * (prior + shortfall) + 373) / 367

theorem daysBeforeMonth_succ (leap : Bool) (number : Nat) (lower : 1 ≤ number)
    (upper : number ≤ 11) :
    daysBeforeMonth leap (number + 1) = daysBeforeMonth leap number + monthLength leap number := by
  have checked : ∀ leap : Bool, ∀ number : Fin 12, 1 ≤ number.val →
      daysBeforeMonth leap (number + 1) =
        daysBeforeMonth leap number + monthLength leap number := by decide
  exact checked leap ⟨number, by omega⟩ lower

theorem yearLength_eq (leap : Bool) :
    yearLength leap = daysBeforeMonth leap 12 + monthLength leap 12 := by
  cases leap <;> rfl

theorem monthAfter_bounds (leap : Bool) (prior : Nat) (inYear : prior < yearLength leap) :
    (1 ≤ monthAfter leap prior ∧ monthAfter leap prior ≤ 12) ∧
      daysBeforeMonth leap (monthAfter leap prior) ≤ prior ∧
      prior < daysBeforeMonth leap (monthAfter leap prior) +
        monthLength leap (monthAfter leap prior) := by
  have checked : ∀ leap : Bool, ∀ prior : Fin 366, prior.val < yearLength leap →
      (1 ≤ monthAfter leap prior ∧ monthAfter leap prior ≤ 12) ∧
        daysBeforeMonth leap (monthAfter leap prior) ≤ prior ∧
        prior < daysBeforeMonth leap (monthAfter leap prior) +
          monthLength leap (monthAfter leap prior) := by decide +kernel
  refine checked leap ⟨prior, ?_⟩ inYear
  cases leap <;> simp only [yearLength] at inYear <;> simp at inYear <;> omega

/-- A calendar month, counted from January of year zero, so that the following month is the
following number and the order of months is the order of their numbers. -/
structure Month where
  ordinal : Int
deriving DecidableEq, Repr

namespace Month

instance : LE Month := ⟨fun earlier later => earlier.ordinal ≤ later.ordinal⟩

instance (earlier later : Month) : Decidable (earlier ≤ later) :=
  inferInstanceAs (Decidable (earlier.ordinal ≤ later.ordinal))

def year (month : Month) : Int := month.ordinal / 12

/-- January is one. -/
def number (month : Month) : Nat := (month.ordinal % 12).toNat + 1

/-- Meant for numbers 1 to 12. -/
def ofNumber (year : Int) (number : Nat) : Month := ⟨12 * year + (number - 1)⟩

def next (month : Month) : Month := ⟨month.ordinal + 1⟩

def previous (month : Month) : Month := ⟨month.ordinal - 1⟩

theorem one_le_number (month : Month) : 1 ≤ month.number := by
  simp only [number]
  omega

theorem number_le (month : Month) : month.number ≤ 12 := by
  simp only [number]
  omega

@[simp] theorem next_previous (month : Month) : month.previous.next = month := by
  simp [next, previous]

@[simp] theorem previous_next (month : Month) : month.next.previous = month := by
  simp [next, previous]

/-- December is followed by January of the next year, any other month by the next number. -/
theorem next_cases (month : Month) :
    (month.next.year = month.year ∧ month.next.number = month.number + 1) ∨
      (month.number = 12 ∧ month.next.year = month.year + 1 ∧ month.next.number = 1) := by
  simp only [next, year, number]
  omega

/-- January follows December of the year before, any other month the number before. -/
theorem previous_cases (month : Month) :
    (month.previous.year = month.year ∧ month.previous.number + 1 = month.number) ∨
      (month.number = 1 ∧ month.previous.year = month.year - 1 ∧ month.previous.number = 12) := by
  simp only [previous, year, number]
  omega

@[simp] theorem year_ofNumber (year : Int) (number : Nat) (lower : 1 ≤ number)
    (upper : number ≤ 12) : (ofNumber year number).year = year := by
  simp only [ofNumber, Month.year]
  omega

@[simp] theorem number_ofNumber (year : Int) (number : Nat) (lower : 1 ≤ number)
    (upper : number ≤ 12) : (ofNumber year number).number = number := by
  simp only [ofNumber, Month.number]
  omega

def length (month : Month) : Nat := monthLength (isLeapYear month.year) month.number

/-- Epoch day of the first of the month. -/
def firstDay (month : Month) : Int :=
  yearStart month.year + daysBeforeMonth (isLeapYear month.year) month.number

theorem firstDay_next (month : Month) : month.next.firstDay = month.firstDay + month.length := by
  rcases month.next_cases with ⟨year_eq, number_eq⟩ | ⟨december, year_eq, number_eq⟩
  · have lower := month.one_le_number
    have upper := month.next.number_le
    have further := daysBeforeMonth_succ (isLeapYear month.year) month.number lower (by omega)
    simp only [firstDay, length, year_eq, number_eq, further]
    omega
  · have january : daysBeforeMonth (isLeapYear (month.year + 1)) 1 = 0 := by
      cases isLeapYear (month.year + 1) <;> rfl
    have whole := yearLength_eq (isLeapYear month.year)
    simp only [firstDay, length, year_eq, number_eq, december, yearStart_succ, january, whole]
    omega

/-- The month that an epoch day falls in. -/
def ofDay (day : Int) : Month :=
  ofNumber (yearOfDay day)
    (monthAfter (isLeapYear (yearOfDay day)) (day - yearStart (yearOfDay day)).toNat)

theorem ofDay_bounds (day : Int) :
    (ofDay day).firstDay ≤ day ∧ day < (ofDay day).firstDay + (ofDay day).length := by
  have start_le := yearStart_yearOfDay_le day
  have lt_end := lt_yearStart_yearOfDay day
  rw [yearStart_succ] at lt_end
  simp only [ofDay]
  generalize yearOfDay day = year at *
  have inYear : (day - yearStart year).toNat < yearLength (isLeapYear year) := by omega
  obtain ⟨⟨lower, upper⟩, start, stop⟩ := monthAfter_bounds (isLeapYear year) _ inYear
  simp only [firstDay, length, year_ofNumber year _ lower upper,
    number_ofNumber year _ lower upper]
  omega

theorem firstDay_ofDay_le (day : Int) : (ofDay day).firstDay ≤ day :=
  (ofDay_bounds day).1

end Month

end TrafficMeter
