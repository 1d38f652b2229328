import TrafficMeter.Calendar.Text
import TrafficMeter.Chart.Menu
import TrafficMeter.Chart.Span
import TrafficMeter.Size.Text
import TrafficMeter.Display.History

set_option autoImplicit false

namespace TrafficMeter

/-- When a counter was last reset. -/
structure ResetStamp where
  display : String
  /-- Unix time; zero if there was no reset. -/
  raw : Int
deriving DecidableEq, Repr

/-- The headline counters of a server. -/
structure Summary where
  today : Counter
  monthToDate : Counter
  allTime : Counter
  sinceReset : Counter
  resetStamp : ResetStamp
deriving DecidableEq, Repr

namespace History

/-- The headline counters of a server in the newest batch. -/
def summary (history : History) (scope : Scope) (zone : Zone) : Except LookupFault Summary := do
  let (batch, snapshot) ← history.find scope
  return {
    today := Counter.ofSize snapshot.todayValue
    monthToDate := Counter.ofSize (batch.currentMonthTotal scope)
    allTime := Counter.ofSize (some snapshot.total)
    sinceReset := Counter.ofSize (some snapshot.custom)
    resetStamp := ⟨zone.timeText snapshot.customTime, snapshot.customTime⟩ }

/-- The periods offered for a quick choice. -/
def quickPeriods (history : History) : Except LookupFault (List Period) :=
  match history.current with
  | none => .error .noSnapshot
  | some batch => .ok batch.aggregate.quickPeriods

end History

end TrafficMeter
