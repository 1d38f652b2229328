import TrafficMeter.Chart.Span

set_option autoImplicit false

namespace TrafficMeter

/-- The periods offered for a quick choice, newest first: the last three months and the last two
years, none of them before the one in which the buffer begins. -/
def Snapshot.quickPeriods (aggregate : Snapshot) : List Period :=
  match aggregate.clock with
  | .untrusted => []
  | .trusted firstDay today =>
    let oldest := (Date.ofClampedDay firstDay).month
    let newest := (Date.ofClampedDay today).month
    let months := [newest, newest.previous, newest.previous.previous].takeWhile (oldest ≤ ·)
    let years := [newest.year, newest.year - 1].takeWhile (oldest.year ≤ ·)
    months.map Period.month ++ years.map Period.year

end TrafficMeter
