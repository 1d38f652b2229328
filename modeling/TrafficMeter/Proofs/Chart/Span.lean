import TrafficMeter.Chart.Basic
import TrafficMeter.Display.Summary
import TrafficMeter.Proofs.Calendar.Days

set_option autoImplicit false

namespace TrafficMeter

namespace PeriodSpan

theorem startIndex_month (month : Month) (origin : Int) (known : yearInCalendar month.year) :
    (⟨.month month, origin⟩ : PeriodSpan).startIndex = month.firstDay - origin := by
  simp only [startIndex, firstDate, Period.firstDate, Month.epochDay_firstDate month known]

theorem endIndex_month (month : Month) (origin : Int) (known : yearInCalendar month.year) :
    (⟨.month month, origin⟩ : PeriodSpan).endIndex =
      month.firstDay + month.length - 1 - origin := by
  simp only [endIndex, Period.lastDate, Month.epochDay_lastDate month known]

theorem dayCount_month (month : Month) (origin : Int) (known : yearInCalendar month.year) :
    (⟨.month month, origin⟩ : PeriodSpan).dayCount = month.length := by
  rw [dayCount, startIndex_month month origin known, endIndex_month month origin known]
  omega

/-- The day from which indices are counted cancels against the shift to a server's buffer. -/
theorem recorded_shift (snapshot : Snapshot) (period : Period) (origin : Int) :
    (⟨period, origin⟩ : PeriodSpan).recorded snapshot (origin - snapshot.firstDay) =
      snapshot.days.recorded (period.firstDate.epochDay - snapshot.firstDay)
        (period.lastDate.epochDay - snapshot.firstDay) := by
  simp only [recorded, startIndex, endIndex, firstDate]
  congr 1 <;> omega

theorem total_eq_none_iff (span : PeriodSpan) (snapshot : Snapshot) (dayShift : Int) :
    span.total snapshot dayShift = none ↔ span.recorded snapshot dayShift = [] := by
  unfold total
  split <;> simp_all

theorem total_eq_some (span : PeriodSpan) (snapshot : Snapshot) (dayShift : Int) (size : Size)
    (present : span.total snapshot dayShift = some size) :
    ((span.recorded snapshot dayShift).map Prod.snd).sum = size := by
  unfold total at present
  split at present
  · cases present
  · exact Option.some.inj present

end PeriodSpan

/-- A range of months reads the days of a month wherever the clock can be trusted. -/
theorem ChartSource.ofRange_month (chosen : Option Month) (aggregate : Snapshot)
    (trusted : aggregate.isTrusted) :
    ofRange (.month chosen) aggregate =
      .days ⟨.month (chosen.getD (Date.ofClampedDay aggregate.today).month),
        aggregate.firstDay⟩ := by
  simp only [ofRange, Snapshot.clock, trusted, ↓reduceIte]

theorem ChartSource.ofRange_year (chosen : Option Int) (aggregate : Snapshot)
    (trusted : aggregate.isTrusted) :
    ofRange (.year chosen) aggregate =
      .months ⟨.year (chosen.getD (Date.ofClampedDay aggregate.today).year),
        aggregate.firstDay⟩ := by
  simp only [ofRange, Snapshot.clock, trusted, ↓reduceIte]

/-- The date that the aggregate's newest day reads as: beyond the calendar this is its last one. -/
def Batch.todayDate (batch : Batch) : Date := Date.ofClampedDay batch.aggregate.today

theorem Batch.epochDay_todayDate (batch : Batch) (trusted : batch.aggregate.isTrusted) :
    batch.todayDate.epochDay = min Date.latestDay batch.aggregate.today := by
  have clock := batch.aggregate.isTrusted_iff.mp trusted
  have clamped : batch.todayDate.epochDay =
      max Date.earliestDay (min Date.latestDay batch.aggregate.today) :=
    Date.epochDay_ofEpochDay _
  simp only [clamped, Date.earliestDay, Date.latestDay, Snapshot.today]
  omega

/-- The chart of a range for one snapshot of a batch, beside its previous reading. -/
def Batch.chartOf (batch : Batch) (range : ChartRange) (snapshot : Snapshot)
    (previous : Option Snapshot) : Chart :=
  Chart.ofSource (ChartSource.ofRange range batch.aggregate) snapshot previous
    (batch.dayShift snapshot)

/-- The headline counters of a snapshot, where the month is told from outside. -/
def Snapshot.summaryWith (snapshot : Snapshot) (monthToDate : Option Size) (zone : Zone) :
    Summary where
  today := Counter.ofSize snapshot.todayValue
  monthToDate := Counter.ofSize monthToDate
  allTime := Counter.ofSize (some snapshot.total)
  sinceReset := Counter.ofSize (some snapshot.custom)
  resetStamp := ⟨zone.timeText snapshot.customTime, snapshot.customTime⟩

namespace History

variable (history : History) (batch : Batch) (scope : Scope) (snapshot : Snapshot)
  (range : ChartRange) (zone : Zone)

/-- A loaded batch that holds the scope always gives a chart. -/
theorem chart_of_found (loaded : history.current = some batch)
    (found : batch.snapshot? scope = some snapshot) :
    history.chart range scope = .ok (Chart.ofSource (ChartSource.ofRange range batch.aggregate)
      snapshot (history.previous.bind (·.snapshot? scope)) (batch.dayShift snapshot)) := by
  rw [chart, history.find_of_found batch scope snapshot loaded found]
  rfl

theorem chart_of_missing (loaded : history.current = some batch)
    (missing : batch.snapshot? scope = none) :
    history.chart range scope = .error (.unknownServer scope.index) := by
  rw [chart, history.find_of_missing batch scope loaded missing]
  rfl

theorem summary_of_found (loaded : history.current = some batch)
    (found : batch.snapshot? scope = some snapshot) :
    history.summary scope zone =
      .ok (snapshot.summaryWith (batch.currentMonthTotal scope) zone) := by
  rw [summary, history.find_of_found batch scope snapshot loaded found]
  rfl

theorem summary_of_missing (loaded : history.current = some batch)
    (missing : batch.snapshot? scope = none) :
    history.summary scope zone = .error (.unknownServer scope.index) := by
  rw [summary, history.find_of_missing batch scope loaded missing]
  rfl

end History

end TrafficMeter
