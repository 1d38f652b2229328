import TrafficMeter.Proofs.Chart.MonthDays
import TrafficMeter.Proofs.Chart.YearMonths

set_option autoImplicit false

namespace TrafficMeter

namespace Series

/-- A series that marks the point of the server's current day if that lies in the month shown, and
no point if it does not or if the server's clock could not be trusted. -/
def MarksToday (series : Series) (snapshot : Snapshot) (month : Month) : Prop :=
  ∀ offset : Nat, series.current = some offset ↔ 0 ≤ snapshot.daySlot ∧
    ∃ inside : offset < month.length, (month.date offset inside).epochDay = snapshot.today

variable (snapshot : Snapshot) (month : Month) (year origin : Int)

theorem current_ofMonth_eq_some_iff (offset : Nat) :
    (ofMonth snapshot month).current = some offset ↔
      ∃ inside : offset < month.length, (month.date offset inside).epochDay = snapshot.today := by
  simp only [ofMonth, pointer_eq_some_iff, Month.epochDay_date, exists_prop]
  omega

/-- Only a negative slot pointer misleads the mark, and only where it still reaches the month. -/
theorem marksToday_ofMonth_iff :
    (ofMonth snapshot month).MarksToday snapshot month ↔
      (snapshot.daySlot < 0 → Month.ofDay snapshot.today ≠ month) := by
  simp only [MarksToday, current_ofMonth_eq_some_iff]
  constructor
  · intro marks negative reached
    obtain ⟨offset, inside, day_eq⟩ := (month.ofDay_eq_iff snapshot.today).mp reached
    have trusted := ((marks offset).mp ⟨inside, day_eq⟩).1
    omega
  · intro apart offset
    constructor
    · rintro ⟨inside, day_eq⟩
      have reached := (month.ofDay_eq_iff snapshot.today).mpr ⟨offset, inside, day_eq⟩
      have trusted : ¬ snapshot.daySlot < 0 := fun negative => apart negative reached
      exact ⟨by omega, inside, day_eq⟩
    · intro marked
      exact marked.2

theorem current_ofMonths :
    (ofMonths snapshot ⟨.year year, origin⟩ (origin - snapshot.firstDay)).current =
      ((snapshot.yearDays year origin).find? (·.1 = snapshot.daySlot)).map
        fun day => yearNumber snapshot year origin day.1 - 1 := by
  simp only [ofMonths, List.find?_map, Option.map_map]
  rfl

/-- The chart of a year marks the month of the server's current day, but only if something was
recorded on that day. -/
theorem current_ofMonths_of_year (known : yearInCalendar year)
    (sameYear : (Month.ofDay snapshot.today).year = year) :
    (ofMonths snapshot ⟨.year year, origin⟩ (origin - snapshot.firstDay)).current =
      snapshot.todayValue.map fun _ => (Month.ofDay snapshot.today).number - 1 := by
  have mem_iff (size : Size) : (snapshot.daySlot, size) ∈ snapshot.yearDays year origin ↔
      (Month.ofDay snapshot.today).year = year ∧ snapshot.todayValue = some size :=
    snapshot.mem_yearDays year origin known snapshot.daySlot size
  have number_eq : yearNumber snapshot year origin snapshot.daySlot =
      (Month.ofDay snapshot.today).number :=
    yearNumber_eq snapshot year origin snapshot.daySlot known sameYear
  rw [current_ofMonths]
  -- whichever day the search meets first, it has today's slot
  cases found : (snapshot.yearDays year origin).find? (·.1 = snapshot.daySlot) with
  | none =>
    rw [List.find?_eq_none] at found
    cases recorded : snapshot.todayValue with
    | none => rfl
    | some size =>
      have listed := (mem_iff size).mpr ⟨sameYear, recorded⟩
      exact absurd (decide_eq_true rfl) (found _ listed)
  | some day =>
    obtain ⟨index, size⟩ := day
    have listed := List.mem_of_find?_eq_some found
    have index_eq : index = snapshot.daySlot := by simpa using List.find?_some found
    rw [index_eq] at listed ⊢
    rw [((mem_iff size).mp listed).2, Option.map_some, Option.map_some, number_eq]

end Series

namespace Batch

variable (batch : Batch) (snapshot : Snapshot) (previous : Option Snapshot)
  (trusted : batch.aggregate.isTrusted)

include trusted

theorem series_chartOf_month (chosen : Option Month)
    (known : ∀ given ∈ chosen, yearInCalendar given.year) :
    (batch.chartOf (.month chosen) snapshot previous).series =
      Series.ofMonth snapshot (chosen.getD batch.todayDate.month) := by
  rw [chartOf, ChartSource.ofRange_month chosen _ trusted]
  exact Series.ofDays_month snapshot _ _ (Date.yearInCalendar_getD_month chosen _ known)

theorem current_chartOf_year (sameYear : (Month.ofDay snapshot.today).year = batch.todayDate.year) :
    (batch.chartOf (.year none) snapshot previous).series.current =
      snapshot.todayValue.map fun _ => (Month.ofDay snapshot.today).number - 1 := by
  rw [chartOf, ChartSource.ofRange_year none _ trusted]
  exact Series.current_ofMonths_of_year snapshot _ _ (Date.yearInCalendar_ofClampedDay _) sameYear

end Batch

/-- The chart of a month marks the day on which the server's slot pointer stands, whether or not
the server trusted its own clock. So the mark is right unless the pointer is negative and stands on
a day of the month. -/
theorem chart_month_marks_today_iff (history : History) (batch : Batch) (scope : Scope)
    (snapshot : Snapshot) (chosen : Option Month) (month : Month)
    (loaded : history.current = some batch) (trusted : batch.aggregate.isTrusted)
    (found : batch.snapshot? scope = some snapshot)
    (shown : chosen.getD batch.todayDate.month = month)
    (known : ∀ given ∈ chosen, yearInCalendar given.year) :
    ∃ chart, history.chart (.month chosen) scope = .ok chart ∧
      (∀ offset, chart.series.current = some offset ↔ ∃ inside : offset < month.length,
        (month.date offset inside).epochDay = snapshot.today) ∧
      (chart.series.MarksToday snapshot month ↔
        (snapshot.daySlot < 0 → Month.ofDay snapshot.today ≠ month)) := by
  let previous := history.previous.bind (·.snapshot? scope)
  have charted : history.chart (.month chosen) scope =
      .ok (batch.chartOf (.month chosen) snapshot previous) :=
    history.chart_of_found batch scope snapshot (.month chosen) loaded found
  have series_eq := batch.series_chartOf_month snapshot previous trusted chosen known
  rw [shown] at series_eq
  refine ⟨_, charted, ?_, ?_⟩
  · rw [series_eq]
    exact Series.current_ofMonth_eq_some_iff snapshot month
  · rw [series_eq]
    exact Series.marksToday_ofMonth_iff snapshot month

/-- The late server writes its third slot, which is the twelfth of February. -/
theorem chart_month_marks_today_late_server :
    ∃ chart, (⟨some ⟨.ofDays 18295 9 [], [lateServer]⟩, none⟩ : History).chart
        (.month none) (.server 0) = .ok chart ∧
      chart.series.MarksToday lateServer (.ofNumber 2020 2) ∧
      chart.series.current = some 11 := by
  obtain ⟨chart, charted, current_iff, marks_iff⟩ := chart_month_marks_today_iff
    ⟨some ⟨.ofDays 18295 9 [], [lateServer]⟩, none⟩ ⟨.ofDays 18295 9 [], [lateServer]⟩
    (.server 0) lateServer none (.ofNumber 2020 2) rfl (by decide) rfl (by decide)
    (fun _ impossible => nomatch impossible)
  exact ⟨chart, charted, marks_iff.mpr (by decide), (current_iff 11).mpr ⟨by decide, by decide⟩⟩

/-- A server without a trusted clock, whose buffer begins on the ninth of February 2020. -/
def unsetServer : Snapshot := .ofDays 18301 (-1) [some ⟨1, 1048576⟩]

/-- The day before its buffer is marked as the current one. -/
theorem unset_clock_is_marked :
    ∃ chart, (⟨some ⟨.ofDays 18293 9 [], [unsetServer]⟩, none⟩ : History).chart
        (.month (some (.ofNumber 2020 2))) (.server 0) = .ok chart ∧
      chart.series.current = some 7 ∧
      ¬ chart.series.MarksToday unsetServer (.ofNumber 2020 2) := by
  have current_eq : (Series.ofDays unsetServer ⟨.month (.ofNumber 2020 2), 18293⟩
      (18293 - 18301)).current = some 7 := by decide
  refine ⟨_, rfl, current_eq, ?_⟩
  intro marks
  have trusted := ((marks 7).mp current_eq).1
  revert trusted
  decide

end TrafficMeter
