import TrafficMeter.Chart.Basic
import TrafficMeter.Display.Summary

set_option autoImplicit false

namespace TrafficMeter

/-- All that one display shows at a time. -/
structure Frame where
  chart : Chart
  summary : Summary
deriving DecidableEq, Repr

/-- What a range and a server look like in the newest batch. -/
def History.frame (history : History) (range : ChartRange) (scope : Scope) (zone : Zone) :
    Except LookupFault Frame := do
  let chart ← history.chart range scope
  let summary ← history.summary scope zone
  return ⟨chart, summary⟩

end TrafficMeter
