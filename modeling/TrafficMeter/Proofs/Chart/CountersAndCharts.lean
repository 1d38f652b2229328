import TrafficMeter.Proofs.Calendar.Succession
import TrafficMeter.Proofs.Chart.CurrentDay
import TrafficMeter.Proofs.Chart.PeriodDays

set_option autoImplicit false

namespace TrafficMeter

/-- A chart of the month and one of the year that mark a date, where the point of the date shows
what the day's counter says. The year marks nothing if the counter has no data. -/
structure PointAt (date : Date) (today : Counter) (month year : Chart) : Prop where
  month_current : month.series.current = some (date.day - 1)
  month_value : month.series.values[date.day - 1]? = some today.raw
  year_current : today.raw ≠ none → year.series.current = some (date.month.number - 1)
  year_unmarked : today.raw = none → year.series.current = none

namespace Batch

variable (batch : Batch) (previous : Option Snapshot) (trusted : batch.aggregate.isTrusted)

include trusted

/-- The counter and the chart add up the days of the current month, each in its own way. -/
theorem currentMonthTotal_eq_chart_total (scope : Scope) (snapshot : Snapshot)
    (found : batch.snapshot? scope = some snapshot) :
    batch.currentMonthTotal scope =
      some ((batch.chartOf (.month none) snapshot previous).total.raw.getD 0) := by
  have total_eq : (batch.chartOf (.month none) snapshot previous).total.raw =
      Size.sumSlots (snapshot.periodDays (.month batch.todayDate.month)) := by
    rw [chartOf, ChartSource.ofRange_month none _ trusted]
    exact PeriodSpan.total_eq_sumSlots snapshot _ _
  rw [total_eq, Size.getD_sumSlots]
  exact batch.currentMonthTotal_of_trusted scope snapshot trusted found

/-- The aggregate's newest day always lies in the current month and in the current year. -/
theorem pointAt_todayDate (day_eq : batch.todayDate.epochDay = batch.aggregate.today) :
    PointAt batch.todayDate (Counter.ofSize batch.aggregate.todayValue)
      (batch.chartOf (.month none) batch.aggregate previous)
      (batch.chartOf (.year none) batch.aggregate previous) := by
  have series_eq := batch.series_chartOf_month batch.aggregate previous trusted none
    (fun _ impossible => nomatch impossible)
  have month_eq : Month.ofDay batch.aggregate.today = batch.todayDate.month := by
    rw [← day_eq, Date.ofDay_epochDay]
  have year_current := batch.current_chartOf_year batch.aggregate previous trusted
    (congrArg Month.year month_eq)
  rw [month_eq] at year_current
  have lower := batch.todayDate.one_le_day
  have upper := batch.todayDate.day_le_length
  have inside : batch.todayDate.day - 1 < batch.todayDate.month.length := by omega
  -- the point of a date comes as many days behind the first of the month
  have offset_day : (batch.todayDate.month.date _ inside).epochDay = batch.aggregate.today := by
    rw [Month.epochDay_date, ← day_eq, Date.epochDay]
    omega
  refine ⟨?_, ?_, ?_, ?_⟩
  · rw [series_eq, Option.getD_none, Series.current_ofMonth_eq_some_iff]
    exact ⟨inside, offset_day⟩
  · have shows := Series.ofMonth_showsMonth batch.aggregate batch.todayDate.month
      (Date.yearInCalendar_ofClampedDay _)
    obtain ⟨dated, point⟩ := shows.dated _ inside
    rw [series_eq, Option.getD_none, Series.values, List.getElem?_map, point, Option.map_some,
      ← dated, offset_day, Snapshot.dayValue_today]
    rfl
  · intro recorded
    obtain ⟨size, size_eq⟩ := Option.ne_none_iff_exists'.mp recorded
    have value_eq : batch.aggregate.todayValue = some size := size_eq
    rw [year_current, value_eq, Option.map_some]
  · intro blank
    have value_eq : batch.aggregate.todayValue = none := blank
    rw [year_current, value_eq, Option.map_none]

end Batch

/-- Counters and charts agree. The volume of the month is the total of the current month's chart,
or zero where that has none; without a trusted clock there is no such volume. For all servers
together, both charts mark the newest day, and the month shows the counter of the day there. -/
theorem counters_agree_with_charts (history : History) (batch : Batch) (scope : Scope)
    (snapshot : Snapshot) (zone : Zone) (loaded : history.current = some batch)
    (found : batch.snapshot? scope = some snapshot) :
    ∃ counters month year, history.summary scope zone = .ok counters ∧
      history.chart (.month none) scope = .ok month ∧
      history.chart (.year none) scope = .ok year ∧
      (¬ batch.aggregate.isTrusted → counters.monthToDate.raw = none) ∧
      (batch.aggregate.isTrusted →
        counters.monthToDate.raw = some (month.total.raw.getD 0)) ∧
      (scope = .all → batch.aggregate.isTrusted → batch.aggregate.today ≤ Date.latestDay →
        ∃ date : Date, date.epochDay = batch.aggregate.today ∧
          PointAt date counters.today month year) := by
  have summed := history.summary_of_found batch scope snapshot zone loaded found
  have month_charted := history.chart_of_found batch scope snapshot (.month none) loaded found
  have year_charted := history.chart_of_found batch scope snapshot (.year none) loaded found
  refine ⟨_, _, _, summed, month_charted, year_charted, ?_, ?_, ?_⟩
  · intro untrusted
    exact batch.currentMonthTotal_of_untrusted scope untrusted
  · intro trusted
    exact batch.currentMonthTotal_eq_chart_total _ trusted scope snapshot found
  · intro all trusted inside
    subst all
    cases found
    have clamped := batch.epochDay_todayDate trusted
    have day_eq : batch.todayDate.epochDay = batch.aggregate.today := by omega
    exact ⟨batch.todayDate, day_eq, batch.pointAt_todayDate _ trusted day_eq⟩

/-- One server that recorded the last two days of February 2020. -/
def leapBatch : Batch := ⟨.ofDays 18320 1 [some ⟨1, 1048576⟩, some ⟨2, 2097152⟩], []⟩

/-- On the leap day the 29th point of the month and the second of the year are marked, and the
month has three megabytes in the counter and in the chart. -/
theorem counters_agree_with_charts_leap_day :
    ∃ counters month year, (⟨some leapBatch, none⟩ : History).summary .all .utc = .ok counters ∧
      (⟨some leapBatch, none⟩ : History).chart (.month none) .all = .ok month ∧
      (⟨some leapBatch, none⟩ : History).chart (.year none) .all = .ok year ∧
      counters.monthToDate.raw = some ⟨3, 3145728⟩ ∧ month.series.current = some 28 ∧
      month.series.values[28]? = some (some ⟨2, 2097152⟩) ∧ year.series.current = some 1 := by
  obtain ⟨counters, month, year, summed, monthCharted, yearCharted, _, total_eq, points⟩ :=
    counters_agree_with_charts ⟨some leapBatch, none⟩ leapBatch .all leapBatch.aggregate .utc rfl rfl
  obtain ⟨date, day_eq, point⟩ := points rfl (by decide) (by decide)
  have date_eq : date = Date.ofEpochDay 18321 := by
    rw [← date.ofEpochDay_epochDay, day_eq]
    rfl
  subst date_eq
  have today_eq : counters.today.raw = some ⟨2, 2097152⟩ := by
    cases summed
    rfl
  refine ⟨counters, month, year, summed, monthCharted, yearCharted, ?_, point.month_current, ?_, ?_⟩
  · rw [total_eq (by decide)]
    cases monthCharted
    decide
  · rw [← today_eq]
    exact point.month_value
  · apply point.year_current
    rw [today_eq]
    exact Option.some_ne_none _

end TrafficMeter
