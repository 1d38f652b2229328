import TrafficMeter.Proofs.Chart.Totals
import TrafficMeter.Proofs.Period.Grammar

set_option autoImplicit false

namespace TrafficMeter

/-- A month is accepted only if the calendar holds it, whatever years are accepted. -/
theorem Period.yearInCalendar_of_parse (limits : YearLimits) (input : String) (month : Month)
    (parsed : parse limits input = .ok (.month month)) : yearInCalendar month.year := by
  have reads := (parseEntry_eq_iff limits _ _).mp parsed
  cases reads with
  | month _ numeral _ year_eq _ =>
    rw [year_eq]
    exact yearInCalendar_of_numeral numeral

namespace ChartRange

/-- The number of points with which a range is drawn; all months are equally wide. -/
def width : ChartRange → Nat
  | lastMinute | lastHour => 60
  | lastDay => 24
  | month _ => 31
  | year _ => 12

/-- A month that the range names is one of the calendar. -/
def InCalendar (range : ChartRange) : Prop :=
  ∀ shown, range = .month (some shown) → yearInCalendar shown.year

/-- No entry names a month outside the calendar. -/
theorem exists_of_not_inCalendar (range : ChartRange) (unknown : ¬ range.InCalendar) :
    ∃ shown, range = .month (some shown) ∧ ¬ yearInCalendar shown.year ∧
      ∀ limits input, Period.parse limits input ≠ .ok (.month shown) := by
  simp only [InCalendar, Classical.not_forall] at unknown
  obtain ⟨shown, named, outside⟩ := unknown
  refine ⟨shown, named, outside, ?_⟩
  intro limits input parsed
  exact outside (Period.yearInCalendar_of_parse limits input shown parsed)

end ChartRange

namespace Series

def axisLabels (series : Series) : List String := series.points.map (·.axisLabel)

def hoverLabels (series : Series) : List String := series.points.map (·.hoverLabel)

/-- A series of a number of points, one of which is the current one if there is one. -/
structure Fits (series : Series) (width : Nat) : Prop where
  length : series.points.length = width
  current : ∀ index, series.current = some index → index < width

theorem Fits.length_values {series : Series} {width : Nat} (fits : series.Fits width) :
    series.values.length = width := by
  rw [values, List.length_map, fits.length]

theorem pointer_lt (slot : Int) (length index : Nat) (found : pointer slot length = some index) :
    index < length :=
  ((pointer_eq_some_iff slot length index).mp found).2

@[simp] theorem length_ringPoints (length : Nat) (unitLetter : Char) (spacing : Nat)
    (ring : Ring) : (ringPoints length unitLetter spacing ring).length = length := by
  rw [ringPoints, List.length_map, List.length_range]

/-- However long the ring and wherever its pointer. -/
theorem fits_ring (length : Nat) (unitLetter : Char) (spacing : Nat) (ring : Ring) (slot : Int) :
    (⟨ringPoints length unitLetter spacing ring, pointer slot length⟩ : Series).Fits length :=
  ⟨length_ringPoints length unitLetter spacing ring, pointer_lt slot length⟩

/-- The pointer that moves back from the first slot lands on the last one. -/
theorem fits_ofSeconds (snapshot : Snapshot) (previous : Option Snapshot) :
    (ofSeconds snapshot previous).Fits 60 := by
  unfold ofSeconds
  dsimp only
  split
  · rename_i slot before pointed
    have inside := pointer_lt _ _ _ pointed
    constructor
    · rw [List.length_modify, length_ringPoints]
    · intro index moved
      cases moved
      split <;> omega
  · exact fits_ring 60 's' 10 snapshot.seconds snapshot.secondSlot

theorem fits_ofDays (snapshot : Snapshot) (span : PeriodSpan) (dayShift : Int) :
    (ofDays snapshot span dayShift).Fits (max span.dayCount 31) := by
  constructor
  · simp only [ofDays, List.length_append, List.length_map, List.length_range,
      List.length_replicate]
    omega
  · intro index pointed
    have inside := pointer_lt _ _ _ pointed
    omega

theorem fits_ofMonths (snapshot : Snapshot) (span : PeriodSpan) (dayShift : Int) :
    (ofMonths snapshot span dayShift).Fits 12 := by
  constructor
  · simp only [ofMonths, List.length_map, List.length_range]
  · intro index pointed
    obtain ⟨⟨number, day⟩, found, index_eq⟩ := Option.map_eq_some_iff.mp pointed
    obtain ⟨⟨slot, size⟩, _, numbered⟩ := List.mem_map.mp (List.mem_of_find?_eq_some found)
    have upper := (Date.ofClampedDay (span.firstDate.epochDay +
      (slot - dayShift - span.startIndex))).month.number_le
    have number_eq : monthOfIndex span dayShift slot = number := congrArg Prod.fst numbered
    rw [monthOfIndex] at number_eq
    dsimp only at index_eq
    omega

end Series

namespace ChartSource

/-- The number of points that a source gives. A span longer than a month has no blank points. -/
def width : ChartSource → Nat
  | seconds | minutes => 60
  | hours => 24
  | days span => max span.dayCount 31
  | months _ => 12
  | noPeriodData => 0

theorem fits_read (source : ChartSource) (snapshot : Snapshot) (previous : Option Snapshot)
    (dayShift : Int) : (Series.read source snapshot previous dayShift).Fits source.width := by
  cases source with
  | seconds => exact Series.fits_ofSeconds snapshot previous
  | minutes => exact Series.fits_ring 60 'm' 10 snapshot.minutes snapshot.minuteSlot
  | hours => exact Series.fits_ring 24 'h' 3 snapshot.hours snapshot.hourSlot
  | days span => exact Series.fits_ofDays snapshot span dayShift
  | months span => exact Series.fits_ofMonths snapshot span dayShift
  | noPeriodData => exact ⟨rfl, fun _ impossible => nomatch impossible⟩

theorem ofRange_eq_noPeriodData_iff (range : ChartRange) (aggregate : Snapshot) :
    ofRange range aggregate = .noPeriodData ↔ range.IsPeriod ∧ ¬ aggregate.isTrusted := by
  by_cases trusted : aggregate.isTrusted
  · simp only [trusted, not_true_eq_false, and_false, iff_false]
    cases range with
    | lastMinute | lastHour | lastDay => exact fun missing => nomatch missing
    | month chosen =>
      rw [ofRange_month chosen aggregate trusted]
      exact fun missing => nomatch missing
    | year chosen =>
      rw [ofRange_year chosen aggregate trusted]
      exact fun missing => nomatch missing
  · simp only [trusted, Bool.false_eq_true, not_false_eq_true, and_true]
    constructor
    · intro missing
      cases range with
      | lastMinute | lastHour | lastDay => cases missing
      | month chosen | year chosen => trivial
    · intro period
      exact ofRange_untrusted range aggregate period trusted

/-- Wherever there is something to show, it has the width of its range. -/
theorem width_ofRange (range : ChartRange) (aggregate : Snapshot)
    (shown : ofRange range aggregate ≠ .noPeriodData) (known : range.InCalendar) :
    (ofRange range aggregate).width = range.width := by
  rw [ne_eq, ofRange_eq_noPeriodData_iff, not_and, Classical.not_not] at shown
  cases range with
  | lastMinute | lastHour | lastDay => rfl
  | month chosen =>
    have shown_known := Date.yearInCalendar_getD_month chosen aggregate.today
      (fun month given => known month (congrArg ChartRange.month given))
    rw [ofRange_month chosen aggregate (shown trivial), width,
      PeriodSpan.dayCount_month _ _ shown_known]
    exact Nat.max_eq_right (Month.length_le _)
  | year chosen =>
    rw [ofRange_year chosen aggregate (shown trivial)]
    rfl

end ChartSource

namespace Chart

/-- All lists of a chart have the same length, values are plotted where there are values, and the
current point is one of the points. -/
structure HasWidth (chart : Chart) (width : Nat) : Prop where
  plotted : chart.plotted.length = width
  values : chart.series.values.length = width
  axisLabels : chart.series.axisLabels.length = width
  hoverLabels : chart.series.hoverLabels.length = width
  absent : ∀ index : Nat,
    chart.plotted[index]? = some none ↔ chart.series.values[index]? = some none
  current : ∀ index, chart.series.current = some index → index < width

theorem hasWidth_of_fits (chart : Chart) (width : Nat) (fits : chart.series.Fits width) :
    chart.HasWidth width where
  plotted := by
    rw [Chart.plotted, SizeUnit.measureAll, List.length_map, Series.values, List.length_map,
      fits.length]
  values := fits.length_values
  axisLabels := by rw [Series.axisLabels, List.length_map, fits.length]
  hoverLabels := by rw [Series.hoverLabels, List.length_map, fits.length]
  absent := by
    intro index
    rw [Chart.plotted, SizeUnit.measureAll, List.getElem?_map, Option.map_eq_some_iff]
    simp only [Option.map_eq_none_iff, exists_eq_right]
  current := fits.current

end Chart

theorem History.current_of_find (history : History) (scope : Scope) (batch : Batch)
    (snapshot : Snapshot) (found : history.find scope = .ok (batch, snapshot)) :
    history.current = some batch := by
  unfold find at found
  split at found
  · cases found
  · rename_i loaded
    split at found
    · cases found
    · cases found
      exact loaded

theorem Chart.status_ofSource (source : ChartSource) (snapshot : Snapshot)
    (previous : Option Snapshot) (dayShift : Int) :
    (ofSource source snapshot previous dayShift).status = .noPeriodData ↔
      source = .noPeriodData := by
  unfold ofSource
  dsimp only
  split
  · rename_i missing
    exact iff_of_true rfl missing
  · rename_i shown
    exact iff_of_false (fun degraded => nomatch degraded) shown

/-- Whatever is recorded and wherever the slot pointers stand, the lists of a chart have the same
length and its current point is among its points. A month or a year has no points and no total if
the clock tells no dates, and exactly then the chart says so; otherwise each range has its own
width. Only a month outside the calendar would be wider, and no such month can be entered. -/
theorem chart_lists_agree (history : History) (range : ChartRange) (scope : Scope) (chart : Chart)
    (charted : history.chart range scope = .ok chart) :
    ∃ batch width, history.current = some batch ∧ chart.HasWidth width ∧
      (chart.status = .noPeriodData ↔ range.IsPeriod ∧ ¬ batch.aggregate.isTrusted) ∧
      (chart.status = .noPeriodData → width = 0 ∧ chart.total = Counter.ofSize none) ∧
      (chart.status ≠ .noPeriodData → width = range.width ∨
        ∃ month, range = .month (some month) ∧ ¬ yearInCalendar month.year ∧
          ∀ limits input, Period.parse limits input ≠ .ok (.month month)) := by
  unfold History.chart at charted
  cases found : history.find scope with
  | error reason =>
    rw [found] at charted
    cases charted
  | ok pair =>
    obtain ⟨batch, snapshot⟩ := pair
    rw [found] at charted
    cases charted
    refine ⟨batch, (ChartSource.ofRange range batch.aggregate).width,
      history.current_of_find scope batch snapshot found,
      Chart.hasWidth_of_fits _ _ (ChartSource.fits_read _ _ _ _), ?_, ?_, ?_⟩
    · rw [Chart.status_ofSource, ChartSource.ofRange_eq_noPeriodData_iff]
    · rw [Chart.status_ofSource]
      intro missing
      rw [missing]
      exact ⟨rfl, rfl⟩
    · rw [ne_eq, Chart.status_ofSource]
      intro shown
      by_cases known : range.InCalendar
      · exact .inl (ChartSource.width_ofRange range batch.aggregate shown known)
      · exact .inr (range.exists_of_not_inCalendar known)

/-- A snapshot without a trusted clock whose second pointer stands at the first slot, in a ring of
more slots than are shown. -/
def wrappedSnapshot : Snapshot :=
  { Snapshot.ofDays 18262 (-1) [] with seconds := List.replicate 70 (some 0) }

/-- The pointer moves back to the last second, and a month shows nothing. -/
theorem chart_lists_agree_wrapped :
    let history : History := ⟨some ⟨wrappedSnapshot, []⟩, some ⟨wrappedSnapshot, []⟩⟩
    (∃ chart, history.chart .lastMinute .all = .ok chart ∧ chart.HasWidth 60 ∧
        chart.series.current = some 59) ∧
      ∃ chart, history.chart (.month none) .all = .ok chart ∧ chart.HasWidth 0 ∧
        chart.status = .noPeriodData := by
  intro history
  constructor
  · obtain ⟨_, width, _, fits, _, _, shown⟩ :=
      chart_lists_agree history .lastMinute .all _ rfl
    rcases shown (by decide) with width_eq | ⟨_, named, _⟩
    · rw [width_eq] at fits
      exact ⟨_, rfl, fits, rfl⟩
    · cases named
  · obtain ⟨_, width, loaded, fits, status_iff, degraded, _⟩ :=
      chart_lists_agree history (.month none) .all _ rfl
    cases loaded
    have status := status_iff.mpr ⟨trivial, by decide⟩
    rw [(degraded status).1] at fits
    exact ⟨_, rfl, fits, status⟩

end TrafficMeter
