import TrafficMeter.Period.Range
import TrafficMeter.Snapshot.Batch
import TrafficMeter.Snapshot.Clock

set_option autoImplicit false

namespace TrafficMeter

/-- A period as seen from a day buffer that begins on the epoch day `origin`. -/
structure PeriodSpan where
  period : Period
  origin : Int
deriving DecidableEq, Repr

namespace PeriodSpan

def firstDate (span : PeriodSpan) : Date := span.period.firstDate

/-- Day index of the period's first day. -/
def startIndex (span : PeriodSpan) : Int := span.firstDate.epochDay - span.origin

/-- Day index of the period's last day. -/
def endIndex (span : PeriodSpan) : Int := span.period.lastDate.epochDay - span.origin

/-- Number of days in the period. -/
def dayCount (span : PeriodSpan) : Nat := (span.endIndex - span.startIndex + 1).toNat

/-- The recorded days of the period, by index in the buffer of a server, which the aggregate's
indices reach through `dayShift`. -/
def recorded (span : PeriodSpan) (snapshot : Snapshot) (dayShift : Int) : List (Int × Size) :=
  snapshot.days.recorded (span.startIndex + dayShift) (span.endIndex + dayShift)

/-- Sum of the recorded days; absent if there are none. -/
def total (span : PeriodSpan) (snapshot : Snapshot) (dayShift : Int) : Option Size :=
  match span.recorded snapshot dayShift with
  | [] => none
  | days => some (days.map Prod.snd).sum

end PeriodSpan

/-- What a chart reads: one of the rings, or the days of a period. -/
inductive ChartSource
  | seconds
  | minutes
  | hours
  /-- One point for each day of a month. -/
  | days (span : PeriodSpan)
  /-- One point for each month of a year. -/
  | months (span : PeriodSpan)
  /-- A period was asked for, but the clock tells no dates. -/
  | noPeriodData
deriving DecidableEq, Repr

namespace ChartSource

def caption : ChartSource → String
  | seconds => "60 seconds"
  | minutes => "60 minutes"
  | hours => "24 hours"
  | days span | months span => span.period.caption
  | noPeriodData => "no period data"

def span? : ChartSource → Option PeriodSpan
  | days span | months span => some span
  | _ => none

/-- What a range reads, by the clock of the aggregate. -/
def ofRange (range : ChartRange) (aggregate : Snapshot) : ChartSource :=
  match range, aggregate.clock with
  | .lastMinute, _ => seconds
  | .lastHour, _ => minutes
  | .lastDay, _ => hours
  | .month _, .untrusted | .year _, .untrusted => noPeriodData
  | .month chosen, .trusted firstDay today =>
    days ⟨.month (chosen.getD (Date.ofClampedDay today).month), firstDay⟩
  | .year chosen, .trusted firstDay today =>
    months ⟨.year (chosen.getD (Date.ofClampedDay today).year), firstDay⟩

end ChartSource

/-- The span of the month that holds the newest day. -/
def Snapshot.currentMonth? (aggregate : Snapshot) : Option PeriodSpan :=
  match aggregate.clock with
  | .trusted firstDay today => some ⟨.month (Date.ofClampedDay today).month, firstDay⟩
  | .untrusted => none

/-- Volume of the aggregate's current month in the given scope. -/
def Batch.currentMonthTotal (batch : Batch) (scope : Scope) : Option Size := do
  let span ← batch.aggregate.currentMonth?
  let snapshot ← batch.snapshot? scope
  let dayShift := batch.dayShift snapshot
  return snapshot.days.sumBetween (span.startIndex + dayShift) (span.endIndex + dayShift)

end TrafficMeter
