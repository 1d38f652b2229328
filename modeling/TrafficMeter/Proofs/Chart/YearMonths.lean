import TrafficMeter.Proofs.Chart.Span
import TrafficMeter.Proofs.Number.Extremes
import TrafficMeter.Proofs.Snapshot.Recorded

set_option autoImplicit false

namespace TrafficMeter

/-- The span of a year's month; January has the offset zero. -/
def PeriodSpan.monthOfYear (year origin : Int) (offset : Nat) : PeriodSpan :=
  ⟨.month (Month.ofNumber year (offset + 1)), origin⟩

namespace Snapshot

variable (snapshot : Snapshot) (year origin : Int)

/-- The recorded days of a year, reached from the indices of a buffer that begins on `origin`. -/
def yearDays : List (Int × Size) :=
  (⟨.year year, origin⟩ : PeriodSpan).recorded snapshot (origin - snapshot.firstDay)

def monthDays (offset : Nat) : List (Int × Size) :=
  (PeriodSpan.monthOfYear year origin offset).recorded snapshot (origin - snapshot.firstDay)

def monthTotal (offset : Nat) : Option Size :=
  (PeriodSpan.monthOfYear year origin offset).total snapshot (origin - snapshot.firstDay)

theorem monthTotal_eq_none_iff (offset : Nat) :
    snapshot.monthTotal year origin offset = none ↔ snapshot.monthDays year origin offset = [] :=
  PeriodSpan.total_eq_none_iff _ _ _

theorem sum_monthDays (offset : Nat) (size : Size)
    (present : snapshot.monthTotal year origin offset = some size) :
    ((snapshot.monthDays year origin offset).map Prod.snd).sum = size :=
  PeriodSpan.total_eq_some _ _ _ size present

theorem yearDays_pairwise :
    (snapshot.yearDays year origin).Pairwise (fun earlier later => earlier.1 < later.1) :=
  Ring.recorded_pairwise _ _ _

theorem mem_monthDays (offset : Nat) (known : yearInCalendar year) (inYear : offset < 12)
    (index : Int) (size : Size) :
    (index, size) ∈ snapshot.monthDays year origin offset ↔
      Month.ofDay (snapshot.firstDay + index) = Month.ofNumber year (offset + 1) ∧
        snapshot.days.valueAt index = some size := by
  have monthKnown : yearInCalendar (Month.ofNumber year (offset + 1)).year := by
    rw [Month.year_ofNumber year (offset + 1) (by omega) (by omega)]
    exact known
  rw [monthDays, PeriodSpan.monthOfYear, PeriodSpan.recorded_shift, Ring.mem_recorded_iff,
    Period.firstDate, Period.lastDate, Month.epochDay_firstDate _ monthKnown,
    Month.epochDay_lastDate _ monthKnown]
  generalize Month.ofNumber year (offset + 1) = month
  apply and_congr_left
  intro _
  constructor
  · intro bounds
    exact Month.ofDay_eq_of_mem month _ (by omega) (by omega)
  · intro same
    have bounds := Month.ofDay_bounds (snapshot.firstDay + index)
    rw [same] at bounds
    omega

theorem mem_yearDays (known : yearInCalendar year) (index : Int) (size : Size) :
    (index, size) ∈ snapshot.yearDays year origin ↔
      (Month.ofDay (snapshot.firstDay + index)).year = year ∧
        snapshot.days.valueAt index = some size := by
  rw [yearDays, PeriodSpan.recorded_shift, Ring.mem_recorded_iff]
  simp only [Period.firstDate, Period.lastDate, known, ↓reduceIte, Date.epochDay_ofEpochDay]
  apply and_congr_left
  intro _
  constructor
  · intro bounds
    exact Month.year_ofDay _ year (by omega) (by omega)
  · intro same
    obtain ⟨start, stop⟩ := Month.ofDay_bounds (snapshot.firstDay + index)
    rw [← Month.firstDay_next] at stop
    have yearBegins := Month.yearStart_le_firstDay (Month.ofDay (snapshot.firstDay + index))
    have yearEnds := Month.firstDay_next_le (Month.ofDay (snapshot.firstDay + index))
    rw [same] at yearBegins yearEnds
    omega

/-- A day in a later month has a larger index. -/
theorem index_lt_of_month_lt (known : yearInCalendar year) (before after : Nat)
    (ordered : before < after) (inYear : after < 12) (early late : Int × Size)
    (foundEarly : early ∈ snapshot.monthDays year origin before)
    (foundLate : late ∈ snapshot.monthDays year origin after) : early.1 < late.1 := by
  have earlyMonth := ((snapshot.mem_monthDays year origin before known (by omega) _ _).mp
    foundEarly).1
  have lateMonth := ((snapshot.mem_monthDays year origin after known inYear _ _).mp foundLate).1
  by_cases smaller : early.1 < late.1
  · exact smaller
  · have backwards := Month.ofDay_le_ofDay (snapshot.firstDay + late.1)
      (snapshot.firstDay + early.1) (by omega)
    rw [earlyMonth, lateMonth] at backwards
    change 12 * year + ((after + 1 : Nat) - 1 : Int) ≤
      12 * year + ((before + 1 : Nat) - 1 : Int) at backwards
    omega

/-- A year's recorded days are those of its months one after the other: no day is left out and
none comes twice. -/
theorem yearDays_eq_flatMap (known : yearInCalendar year) :
    snapshot.yearDays year origin =
      (List.range 12).flatMap (snapshot.monthDays year origin) := by
  symm
  apply Ring.eq_recorded
  · rw [List.pairwise_flatMap]
    refine ⟨fun offset _ => Ring.recorded_pairwise _ _ _, ?_⟩
    apply List.pairwise_lt_range.imp_of_mem
    intro before after _ inYear ordered early foundEarly late foundLate
    exact snapshot.index_lt_of_month_lt year origin known before after ordered
      (List.mem_range.mp inYear) early late foundEarly foundLate
  · intro index size
    rw [← Ring.mem_recorded_iff]
    change _ ↔ (index, size) ∈ snapshot.yearDays year origin
    rw [snapshot.mem_yearDays year origin known, List.mem_flatMap]
    constructor
    · intro listed
      obtain ⟨offset, inRange, member⟩ := listed
      have inYear := List.mem_range.mp inRange
      obtain ⟨sameMonth, present⟩ :=
        (snapshot.mem_monthDays year origin offset known inYear index size).mp member
      rw [sameMonth, Month.year_ofNumber year (offset + 1) (by omega) (by omega)]
      exact ⟨rfl, present⟩
    · intro found
      obtain ⟨sameYear, present⟩ := found
      have lower := (Month.ofDay (snapshot.firstDay + index)).one_le_number
      have upper := (Month.ofDay (snapshot.firstDay + index)).number_le
      refine ⟨(Month.ofDay (snapshot.firstDay + index)).number - 1, ?_, ?_⟩
      · rw [List.mem_range]
        omega
      · rw [snapshot.mem_monthDays year origin _ known (by omega), Nat.sub_add_cancel lower,
          ← sameYear, Month.ofNumber_year_number]
        exact ⟨rfl, present⟩

end Snapshot

namespace Series

variable (snapshot : Snapshot) (year origin : Int)

/-- The number of the month that the year's chart finds for a day of its buffer. -/
def yearNumber (index : Int) : Nat :=
  monthOfIndex ⟨.year year, origin⟩ (origin - snapshot.firstDay) index

theorem yearNumber_eq (index : Int) (known : yearInCalendar year)
    (inYear : (Month.ofDay (snapshot.firstDay + index)).year = year) :
    yearNumber snapshot year origin index =
      (Month.ofDay (snapshot.firstDay + index)).number := by
  have day_eq : (⟨.year year, origin⟩ : PeriodSpan).firstDate.epochDay +
      (index - (origin - snapshot.firstDay) -
        (⟨.year year, origin⟩ : PeriodSpan).startIndex) = snapshot.firstDay + index := by
    simp only [PeriodSpan.startIndex]
    omega
  obtain ⟨start, stop⟩ := Month.ofDay_bounds (snapshot.firstDay + index)
  have bounds := Date.inCalendar_of_month (Month.ofDay (snapshot.firstDay + index))
    (by rw [inYear]; exact known)
  rw [yearNumber, monthOfIndex, day_eq, Date.ofClampedDay_of_inside _ (by omega) (by omega)]
  rfl

/-- The days that the year's chart puts into a month are the month's own. -/
theorem filter_yearDays (offset : Nat) (known : yearInCalendar year) (inYear : offset < 12) :
    (snapshot.yearDays year origin).filter
        (fun day => yearNumber snapshot year origin day.1 = offset + 1) =
      snapshot.monthDays year origin offset := by
  apply Ring.eq_recorded
  · exact (snapshot.yearDays_pairwise year origin).filter _
  · intro index size
    rw [← Ring.mem_recorded_iff]
    change _ ↔ (index, size) ∈ snapshot.monthDays year origin offset
    rw [List.mem_filter, snapshot.mem_yearDays year origin known,
      snapshot.mem_monthDays year origin offset known inYear, decide_eq_true_eq]
    constructor
    · intro found
      obtain ⟨⟨sameYear, present⟩, sameNumber⟩ := found
      rw [yearNumber_eq snapshot year origin index known sameYear] at sameNumber
      refine ⟨?_, present⟩
      rw [← sameYear, ← sameNumber, Month.ofNumber_year_number]
    · intro found
      obtain ⟨sameMonth, present⟩ := found
      have sameYear : (Month.ofDay (snapshot.firstDay + index)).year = year := by
        rw [sameMonth, Month.year_ofNumber year (offset + 1) (by omega) (by omega)]
      refine ⟨⟨sameYear, present⟩, ?_⟩
      rw [yearNumber_eq snapshot year origin index known sameYear, sameMonth,
        Month.number_ofNumber year (offset + 1) (by omega) (by omega)]

/-- The numbers of the months in which the recorded days of a year lie, day by day. -/
def yearNumbers : List Nat :=
  (snapshot.yearDays year origin).map (yearNumber snapshot year origin ·.1)

theorem yearNumbers_pairwise (known : yearInCalendar year) :
    (yearNumbers snapshot year origin).Pairwise (· ≤ ·) := by
  rw [yearNumbers, List.pairwise_map]
  apply (snapshot.yearDays_pairwise year origin).imp_of_mem
  intro early late foundEarly foundLate ordered
  have earlyYear := ((snapshot.mem_yearDays year origin known _ _).mp foundEarly).1
  have lateYear := ((snapshot.mem_yearDays year origin known _ _).mp foundLate).1
  rw [yearNumber_eq snapshot year origin early.1 known earlyYear,
    yearNumber_eq snapshot year origin late.1 known lateYear]
  apply Month.number_le_number
  · apply Month.ofDay_le_ofDay
    omega
  · rw [earlyYear, lateYear]

theorem mem_yearNumbers (offset : Nat) (known : yearInCalendar year) (inYear : offset < 12) :
    offset + 1 ∈ yearNumbers snapshot year origin ↔
      snapshot.monthTotal year origin offset ≠ none := by
  rw [ne_eq, Snapshot.monthTotal_eq_none_iff,
    ← filter_yearDays snapshot year origin offset known inYear, List.filter_eq_nil_iff,
    yearNumbers, List.mem_map]
  simp only [decide_eq_true_eq, Classical.not_forall, Classical.not_not, exists_prop]

theorem exists_offset_of_mem_yearNumbers (number : Nat)
    (member : number ∈ yearNumbers snapshot year origin) :
    ∃ offset, offset < 12 ∧ number = offset + 1 := by
  rw [yearNumbers, List.mem_map] at member
  obtain ⟨day, _, number_eq⟩ := member
  have lower : 1 ≤ yearNumber snapshot year origin day.1 := Month.one_le_number _
  have upper : yearNumber snapshot year origin day.1 ≤ 12 := Month.number_le _
  exact ⟨number - 1, by omega, by omega⟩

/-- The first month shown is no later than a given one exactly if some month up to that one holds
data. -/
theorem first_month_le_iff (offset : Nat) (known : yearInCalendar year) (inYear : offset < 12) :
    (yearNumbers snapshot year origin).head?.getD 13 ≤ offset + 1 ↔
      ∃ earlier, earlier ≤ offset ∧ snapshot.monthTotal year origin earlier ≠ none := by
  rw [head?_getD_le_iff _ (yearNumbers_pairwise snapshot year origin known) 13 _ (by omega)]
  constructor
  · intro listed
    obtain ⟨number, member, small⟩ := listed
    obtain ⟨earlier, earlierInYear, rfl⟩ :=
      exists_offset_of_mem_yearNumbers snapshot year origin number member
    rw [mem_yearNumbers snapshot year origin earlier known earlierInYear] at member
    exact ⟨earlier, by omega, member⟩
  · intro held
    obtain ⟨earlier, small, present⟩ := held
    rw [← mem_yearNumbers snapshot year origin earlier known (by omega)] at present
    exact ⟨earlier + 1, present, by omega⟩

theorem le_last_month_iff (offset : Nat) (known : yearInCalendar year) :
    offset + 1 ≤ (yearNumbers snapshot year origin).foldl max 0 ↔
      ∃ later, offset ≤ later ∧ later < 12 ∧ snapshot.monthTotal year origin later ≠ none := by
  rw [le_foldl_max_iff]
  constructor
  · intro reached
    rcases reached with impossible | ⟨number, member, large⟩
    · omega
    · obtain ⟨later, inYear, rfl⟩ :=
        exists_offset_of_mem_yearNumbers snapshot year origin number member
      rw [mem_yearNumbers snapshot year origin later known inYear] at member
      exact ⟨later, by omega, inYear, member⟩
  · intro held
    obtain ⟨later, large, inYear, present⟩ := held
    rw [← mem_yearNumbers snapshot year origin later known inYear] at present
    exact Or.inr ⟨later + 1, present, by omega⟩

/-- One month's point: the sum of its own days, shown between the first and the last month that
hold data. -/
theorem values_ofMonths (offset : Nat) (known : yearInCalendar year) (inYear : offset < 12) :
    (ofMonths snapshot ⟨.year year, origin⟩ (origin - snapshot.firstDay)).values[offset]? =
      some (if (yearNumbers snapshot year origin).head?.getD 13 ≤ offset + 1 ∧
          offset + 1 ≤ (yearNumbers snapshot year origin).foldl max 0 then
        some ((snapshot.monthDays year origin offset).map Prod.snd).sum
      else none) := by
  rw [← filter_yearDays snapshot year origin offset known inYear, values, List.getElem?_map,
    ofMonths, List.getElem?_map, List.getElem?_range inYear]
  simp only [Option.map_some, List.map_map, List.filter_map]
  rfl

/-- A series that shows a year by the totals of its months: a month without data shows zero if
there is data both before and after it in the year, and nothing otherwise. -/
structure ShowsYear (series : Series) (total : Nat → Option Size) : Prop where
  length : series.values.length = 12
  present : ∀ (offset : Nat) (size : Size), offset < 12 → total offset = some size →
    series.values[offset]? = some (some size)
  between : ∀ offset : Nat, offset < 12 → total offset = none →
    (∃ earlier, earlier < offset ∧ total earlier ≠ none) →
    (∃ later, offset < later ∧ later < 12 ∧ total later ≠ none) →
    series.values[offset]? = some (some 0)
  outside : ∀ offset : Nat, offset < 12 → total offset = none →
    ¬ ((∃ earlier, earlier < offset ∧ total earlier ≠ none) ∧
      ∃ later, offset < later ∧ later < 12 ∧ total later ≠ none) →
    series.values[offset]? = some none

theorem ofMonths_showsYear (known : yearInCalendar year) :
    (ofMonths snapshot ⟨.year year, origin⟩ (origin - snapshot.firstDay)).ShowsYear
      (snapshot.monthTotal year origin) := by
  refine ⟨?_, ?_, ?_, ?_⟩
  · simp only [ofMonths, values, List.length_map, List.length_range]
  · intro offset size inYear total
    have present : snapshot.monthTotal year origin offset ≠ none := by
      rw [total]
      exact Option.some_ne_none size
    have first := (first_month_le_iff snapshot year origin offset known inYear).mpr
      ⟨offset, Nat.le_refl offset, present⟩
    have last := (le_last_month_iff snapshot year origin offset known).mpr
      ⟨offset, Nat.le_refl offset, inYear, present⟩
    rw [values_ofMonths snapshot year origin offset known inYear, if_pos ⟨first, last⟩,
      snapshot.sum_monthDays year origin offset size total]
  · intro offset inYear absent before after
    obtain ⟨earlier, earlierBefore, earlierPresent⟩ := before
    obtain ⟨later, laterAfter, laterInYear, laterPresent⟩ := after
    have first := (first_month_le_iff snapshot year origin offset known inYear).mpr
      ⟨earlier, Nat.le_of_lt earlierBefore, earlierPresent⟩
    have last := (le_last_month_iff snapshot year origin offset known).mpr
      ⟨later, Nat.le_of_lt laterAfter, laterInYear, laterPresent⟩
    rw [Snapshot.monthTotal_eq_none_iff] at absent
    rw [values_ofMonths snapshot year origin offset known inYear, if_pos ⟨first, last⟩, absent]
    rfl
  · intro offset inYear absent outside
    rw [values_ofMonths snapshot year origin offset known inYear, if_neg]
    rw [first_month_le_iff snapshot year origin offset known inYear,
      le_last_month_iff snapshot year origin offset known]
    intro enclosed
    obtain ⟨⟨earlier, before, earlierPresent⟩, later, after, laterInYear, laterPresent⟩ := enclosed
    -- the month itself holds nothing, so both neighbours lie strictly on their sides
    have not_earlier : earlier ≠ offset := fun same => earlierPresent (same ▸ absent)
    have not_later : later ≠ offset := fun same => laterPresent (same ▸ absent)
    exact outside ⟨⟨earlier, by omega, earlierPresent⟩, later, by omega, laterInYear, laterPresent⟩

end Series

/-- One server with data on the first of March and the 20th of May 2020. -/
def springBatch : Batch where
  aggregate := .ofDays 18322 80
    (some ⟨1, 1048576⟩ :: List.replicate 79 none ++ [some ⟨4, 4194304⟩])
  servers := []

end TrafficMeter
