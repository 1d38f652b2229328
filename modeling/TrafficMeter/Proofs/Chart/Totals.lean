import TrafficMeter.Proofs.Chart.PeriodDays
import TrafficMeter.Proofs.Chart.YearMonths

set_option autoImplicit false

namespace TrafficMeter

namespace Series.ShowsYear

variable {series : Series} {total : Nat → Option Size}

/-- The only point that is not its month's total is a zero behind a month with data. -/
theorem value_cases (shows : series.ShowsYear total) (offset : Nat) (inYear : offset < 12) :
    series.values[offset]? = some (total offset) ∨
      series.values[offset]? = some (some 0) ∧ total offset = none ∧
        ∃ earlier, earlier < offset ∧ total earlier ≠ none := by
  cases found : total offset with
  | some size => exact .inl (shows.present offset size inYear found)
  | none =>
    by_cases enclosed : (∃ earlier, earlier < offset ∧ total earlier ≠ none) ∧
        ∃ later, offset < later ∧ later < 12 ∧ total later ≠ none
    · exact .inr ⟨shows.between offset inYear found enclosed.1 enclosed.2, rfl, enclosed.1⟩
    · exact .inl (shows.outside offset inYear found enclosed)

theorem values_absent_iff (shows : series.ShowsYear total) :
    (∀ value ∈ series.values, value = none) ↔
      ∀ slot ∈ (List.range 12).map total, slot = none := by
  rw [List.forall_mem_map]
  constructor
  · intro blank offset listed
    have inYear := List.mem_range.mp listed
    rcases shows.value_cases offset inYear with shown | ⟨_, absent, _⟩
    · exact blank _ (List.mem_of_getElem? shown)
    · exact absent
  · intro blank value member
    obtain ⟨offset, shown⟩ := List.mem_iff_getElem?.mp member
    have inYear : offset < 12 := by
      rw [← shows.length]
      exact (List.getElem?_eq_some_iff.mp shown).1
    rcases shows.value_cases offset inYear with same | ⟨_, _, earlier, before, present⟩
    · rw [same, Option.some.injEq] at shown
      rw [← shown]
      exact blank offset (List.mem_range.mpr inYear)
    · exact absurd (blank earlier (List.mem_range.mpr (by omega))) present

theorem sumPresent_values (shows : series.ShowsYear total) :
    Size.sumPresent series.values = Size.sumPresent ((List.range 12).map total) := by
  rw [Size.sumPresent_eq_sum, Size.sumPresent_eq_sum]
  congr 1
  apply List.ext_getElem?
  intro offset
  rw [List.getElem?_map, List.getElem?_map, List.getElem?_map]
  by_cases inYear : offset < 12
  · rw [List.getElem?_range inYear]
    rcases shows.value_cases offset inYear with same | ⟨zero, absent, _⟩
    · rw [same]
      rfl
    · rw [zero, Option.map_some, Option.map_some, Option.map_some, absent]
      rfl
  · have length_eq := shows.length
    rw [List.getElem?_eq_none (by omega), List.getElem?_eq_none (by simpa using inYear)]
    rfl

/-- The zeros in the middle of a year change neither its sum nor whether it has one. -/
theorem sumSlots_values (shows : series.ShowsYear total) :
    Size.sumSlots series.values = Size.sumSlots ((List.range 12).map total) :=
  Size.sumSlots_congr _ _ shows.values_absent_iff shows.sumPresent_values

end Series.ShowsYear

namespace PeriodSpan

variable (snapshot : Snapshot) (origin : Int)

theorem total_eq_sumSlots_ofDays (period : Period) :
    (⟨period, origin⟩ : PeriodSpan).total snapshot (origin - snapshot.firstDay) =
      Size.sumSlots
        (Series.ofDays snapshot ⟨period, origin⟩ (origin - snapshot.firstDay)).values := by
  rw [values_ofDays, Size.sumSlots_append, Size.sumSlots_replicate_none, Size.addSlot_none,
    total_eq_sumSlots]

/-- A year has the total of its months. -/
theorem total_year_eq_sumSlots (year : Int) (known : yearInCalendar year) :
    (⟨.year year, origin⟩ : PeriodSpan).total snapshot (origin - snapshot.firstDay) =
      Size.sumSlots ((List.range 12).map (snapshot.monthTotal year origin)) := by
  have days := snapshot.yearDays_eq_flatMap year origin known
  rw [total_eq_sumSlots_recorded, ← Snapshot.yearDays, days, List.map_flatMap,
    Size.sumSlots_flatMap]
  congr 1
  apply List.map_congr_left
  intro offset _
  exact (total_eq_sumSlots_recorded _ _ _).symm

theorem total_eq_sumSlots_ofMonths (year : Int) (known : yearInCalendar year) :
    (⟨.year year, origin⟩ : PeriodSpan).total snapshot (origin - snapshot.firstDay) =
      Size.sumSlots
        (Series.ofMonths snapshot ⟨.year year, origin⟩ (origin - snapshot.firstDay)).values := by
  rw [(Series.ofMonths_showsYear snapshot year origin known).sumSlots_values,
    total_year_eq_sumSlots snapshot origin year known]

end PeriodSpan

/-- A month or a year, which is read by date. -/
def ChartRange.IsPeriod : ChartRange → Prop
  | .month _ | .year _ => True
  | .lastMinute | .lastHour | .lastDay => False

/-- A period's chart totals its points by a reading of its own, which comes to the same. -/
theorem Chart.total_of_trusted (range : ChartRange) (aggregate snapshot : Snapshot)
    (previous : Option Snapshot) (period : range.IsPeriod) (trusted : aggregate.isTrusted)
    (known : ∀ year, range = .year (some year) → yearInCalendar year) :
    (Chart.ofSource (ChartSource.ofRange range aggregate) snapshot previous
        (aggregate.firstDay - snapshot.firstDay)).total.raw =
      Size.sumSlots (Chart.ofSource (ChartSource.ofRange range aggregate) snapshot previous
        (aggregate.firstDay - snapshot.firstDay)).series.values := by
  cases range with
  | lastMinute | lastHour | lastDay => exact period.elim
  | month chosen =>
    rw [ChartSource.ofRange_month chosen aggregate trusted]
    exact PeriodSpan.total_eq_sumSlots_ofDays snapshot aggregate.firstDay _
  | year chosen =>
    have shown_known := Date.yearInCalendar_getD_year chosen aggregate.today
      (fun year given => known year (congrArg ChartRange.year given))
    rw [ChartSource.ofRange_year chosen aggregate trusted]
    exact PeriodSpan.total_eq_sumSlots_ofMonths snapshot aggregate.firstDay _ shown_known

theorem ChartSource.ofRange_untrusted (range : ChartRange) (aggregate : Snapshot)
    (period : range.IsPeriod) (untrusted : ¬ aggregate.isTrusted) :
    ofRange range aggregate = .noPeriodData := by
  cases range with
  | lastMinute | lastHour | lastDay => exact period.elim
  | month chosen | year chosen =>
    simp only [ofRange, Snapshot.clock, untrusted, Bool.false_eq_true, ↓reduceIte]

/-- The total of a chart is the sum of its points. A ring always has one; a month or a year has none
if no point has a value, or if the clock tells no dates. -/
theorem total_is_sum_of_points (history : History) (batch : Batch) (scope : Scope)
    (snapshot : Snapshot) (range : ChartRange) (loaded : history.current = some batch)
    (found : batch.snapshot? scope = some snapshot)
    (known : ∀ year, range = .year (some year) → yearInCalendar year) :
    ∃ chart, history.chart range scope = .ok chart ∧
      (¬ range.IsPeriod → chart.total.raw = some (Size.sumPresent chart.series.values)) ∧
      (range.IsPeriod → batch.aggregate.isTrusted →
        (chart.total.raw = none ↔ ∀ value ∈ chart.series.values, value = none) ∧
        (chart.total.raw ≠ none →
          chart.total.raw = some (Size.sumPresent chart.series.values))) ∧
      (range.IsPeriod → ¬ batch.aggregate.isTrusted → chart.total.raw = none) := by
  refine ⟨_, history.chart_of_found batch scope snapshot range loaded found, ?_, ?_, ?_⟩
  · intro ring
    cases range with
    | lastMinute | lastHour | lastDay => rfl
    | month chosen | year chosen => exact absurd trivial ring
  · intro period trusted
    rw [Batch.dayShift, Chart.total_of_trusted range _ _ _ period trusted known]
    exact ⟨Size.sumSlots_eq_none_iff _, Size.sumSlots_of_present _⟩
  · intro period untrusted
    rw [ChartSource.ofRange_untrusted range _ period untrusted]
    rfl

/-- A year with data in March and in May and a zero for April between them. -/
theorem total_is_sum_of_points_spring :
    ∃ chart, (⟨some springBatch, none⟩ : History).chart (.year (some 2020)) .all = .ok chart ∧
      chart.series.values[3]? = some (some 0) ∧
      chart.total.raw = some (Size.sumPresent chart.series.values) ∧
      chart.total.raw = some ⟨5, 5242880⟩ := by
  obtain ⟨chart, charted, _, totalled, _⟩ := total_is_sum_of_points ⟨some springBatch, none⟩
    springBatch .all springBatch.aggregate (.year (some 2020)) rfl rfl
    (fun year same => by cases same; decide)
  have total_eq : chart.total.raw = some ⟨5, 5242880⟩ := by
    cases charted
    decide
  refine ⟨chart, charted, ?_, ?_, total_eq⟩
  · cases charted
    decide
  · apply (totalled trivial (by decide)).2
    rw [total_eq]
    exact Option.some_ne_none _

end TrafficMeter
