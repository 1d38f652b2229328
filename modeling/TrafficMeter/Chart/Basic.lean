import TrafficMeter.Chart.Series
import TrafficMeter.Size.Text
import TrafficMeter.Display.History

set_option autoImplicit false

namespace TrafficMeter

inductive ChartStatus
  | ready
  /-- A period was asked for, but the clock tells no dates. -/
  | noPeriodData
deriving DecidableEq, Repr

/-- Points on a common unit, and their total. -/
structure Chart where
  status : ChartStatus
  caption : String
  unit : SizeUnit
  series : Series
  total : Counter
deriving DecidableEq, Repr

namespace Chart

/-- The plotted numbers. -/
def plotted (chart : Chart) : List (Option BinaryFraction) :=
  chart.unit.measureAll chart.series.values

/-- The total of a source: a period without a recorded day has none, while the rings always
have one. -/
def totalSize (source : ChartSource) (snapshot : Snapshot) (dayShift : Int) (series : Series) :
    Option Size :=
  match source with
  | .noPeriodData => none
  | .days span | .months span => span.total snapshot dayShift
  | _ => some (Size.sumPresent series.values)

def ofSource (source : ChartSource) (snapshot : Snapshot) (previous : Option Snapshot)
    (dayShift : Int) : Chart :=
  let series := Series.read source snapshot previous dayShift
  { status := if source = .noPeriodData then .noPeriodData else .ready
    caption := source.caption
    unit := SizeUnit.forValues series.values
    series
    total := Counter.ofSize (totalSize source snapshot dayShift series) }

end Chart

/-- The chart of a range for a server of the newest batch. -/
def History.chart (history : History) (range : ChartRange) (scope : Scope) :
    Except LookupFault Chart := do
  let (batch, snapshot) ← history.find scope
  return Chart.ofSource (ChartSource.ofRange range batch.aggregate) snapshot
    (history.previous.bind (·.snapshot? scope)) (batch.dayShift snapshot)

end TrafficMeter
