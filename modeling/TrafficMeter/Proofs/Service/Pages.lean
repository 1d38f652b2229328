import TrafficMeter.Proofs.Chart.MergedMonths
import TrafficMeter.Proofs.Service.QueryText
import TrafficMeter.Service.App

set_option autoImplicit false

namespace TrafficMeter

namespace Batch

variable (batch : Batch) (index : Nat)

theorem snapshot?_ofIndex : batch.snapshot? (.ofIndex index) = batch.toList[index]? := by
  rw [snapshot?, Scope.index_ofIndex]

theorem exists_snapshot? (inside : index < batch.size) :
    ∃ snapshot, batch.snapshot? (.ofIndex index) = some snapshot :=
  ⟨batch.toList[index], by rw [snapshot?_ofIndex, List.getElem?_eq_getElem inside]⟩

theorem snapshot?_of_size_le (outside : batch.size ≤ index) :
    batch.snapshot? (.ofIndex index) = none := by
  rw [snapshot?_ofIndex, List.getElem?_eq_none outside]

end Batch

/-- The range that a request for a chart comes to, whatever there is to show. -/
def Query.ChartRequest.chosenRange (years : YearLimits) (request : ChartRequest) :
    Except PeriodFault ChartRange := do
  ChartRange.ofParts request.range (← request.period.mapM (Period.parse years))

namespace History

variable (history : History) (years : YearLimits) (query : Query)

/-- The frame of a server that is there holds its chart and its counters. -/
theorem exists_frame (batch : Batch) (loaded : history.current = some batch) (range : ChartRange)
    (scope : Scope) (zone : Zone) (snapshot : Snapshot)
    (found : batch.snapshot? scope = some snapshot) :
    ∃ frame, history.frame range scope zone = .ok frame ∧
      history.chart range scope = .ok frame.chart ∧
      history.summary scope zone = .ok frame.summary := by
  have charted := history.chart_of_found batch scope snapshot range loaded found
  have summed := history.summary_of_found batch scope snapshot zone loaded found
  refine ⟨⟨_, _⟩, ?_, charted, summed⟩
  rw [frame, charted, summed]
  rfl

/-- Once a query is read, its range is judged before any server is looked for. -/
theorem chartPage_of_request (request : Query.ChartRequest)
    (asked : query.chartRequest? = some request) :
    history.chartPage years query =
      match request.chosenRange years with
      | .error reason => .error (.period reason)
      | .ok range => (history.chart range request.scope).mapError .lookup := by
  rw [chartPage, asked, Query.ChartRequest.chosenRange]
  cases parsed : request.period.mapM (Period.parse years) with
  | error reason => simp only [parsed, Except.mapError, bind, Except.bind]
  | ok period =>
    simp only [parsed, Except.mapError, bind, Except.bind]
    cases ChartRange.ofParts request.range period <;> rfl

/-- A query that names its parts well is answered by the chart of the range they make. -/
theorem chartPage_of_parts (request : Query.ChartRequest) (period : Option Period)
    (range : ChartRange) (asked : query.chartRequest? = some request)
    (parsed : request.period.mapM (Period.parse years) = .ok period)
    (combined : ChartRange.ofParts request.range period = .ok range) :
    history.chartPage years query = (history.chart range request.scope).mapError .lookup := by
  have chosen : request.chosenRange years = .ok range := by
    rw [Query.ChartRequest.chosenRange, parsed]
    exact combined
  rw [history.chartPage_of_request years query request asked, chosen]

theorem countersPage_of_scope (zone : Zone) (scope : Scope) (asked : query.scope? = some scope) :
    history.countersPage zone query = (history.summary scope zone).mapError .lookup := by
  rw [countersPage, asked]

section Pages

variable (index : UInt64)

theorem chartPage_server : history.chartPage years [("server", Decimal.text index.toNat)] =
    (history.chart .lastMinute (.ofIndex index.toNat)).mapError .lookup :=
  history.chartPage_of_parts years _ _ none .lastMinute
    (Query.chartRequest?_of_parts _ none _ none (Query.parameter?_of_absent _ "range" _ rfl)
      (Query.scope?_of_given _ index rfl) (Query.parameter?_of_absent _ "period" _ rfl)) rfl rfl

theorem chartPage_server_range (name : String) (kind : RangeKind)
    (named : RangeKind.ofText? name = some kind) :
    history.chartPage years [("server", Decimal.text index.toNat), ("range", name)] =
      (history.chart (.ofKind kind) (.ofIndex index.toNat)).mapError .lookup := by
  have asked := Query.chartRequest?_of_parts
    [("server", Decimal.text index.toNat), ("range", name)] (some kind) _ none
    (Query.parameter?_of_given _ "range" _ name kind rfl named)
    (Query.scope?_of_given _ index rfl) (Query.parameter?_of_absent _ "period" _ rfl)
  have combined : ChartRange.ofParts (some kind) none = .ok (.ofKind kind) := by
    cases kind <;> rfl
  exact history.chartPage_of_parts years _ _ none _ asked rfl combined

theorem chartPage_server_period (input : String) (period : Period)
    (parsed : Period.parse years input = .ok period) :
    history.chartPage years [("server", Decimal.text index.toNat), ("period", input)] =
      (history.chart (.ofPeriod period) (.ofIndex index.toNat)).mapError .lookup := by
  have asked := Query.chartRequest?_of_parts
    [("server", Decimal.text index.toNat), ("period", input)] none _ (some input)
    (Query.parameter?_of_absent _ "range" _ rfl) (Query.scope?_of_given _ index rfl)
    (Query.parameter?_of_given _ "period" _ input input rfl rfl)
  have read : (some input).mapM (Period.parse years) = .ok (some period) := by
    rw [Option.mapM_some, parsed]
    rfl
  exact history.chartPage_of_parts years _ _ (some period) _ asked read rfl

theorem chartPage_period_of_refused (input : String) (reason : PeriodFault)
    (refused : Period.parse years input = .error reason) :
    history.chartPage years [("period", input)] = .error (.period reason) := by
  have asked := Query.chartRequest?_of_parts [("period", input)] none _ (some input)
    (Query.parameter?_of_absent _ "range" _ rfl) (Query.scope?_of_absent _ rfl)
    (Query.parameter?_of_given _ "period" _ input input rfl rfl)
  have chosen : Query.ChartRequest.chosenRange years ⟨none, .all, some input⟩ = .error reason := by
    rw [Query.ChartRequest.chosenRange, Option.mapM_some, refused]
    rfl
  rw [history.chartPage_of_request years _ _ asked, chosen]

end Pages

end History

namespace Service

/-- The answer to a request for a page. -/
def get (setup : ServiceSetup) (number : BinaryFraction → Json) (service : Service)
    (address : String) (now : Int) : Response :=
  .ofResult number (service.answer setup .get address now).1

variable (setup : ServiceSetup) (number : BinaryFraction → Json) (service : Service)

section Addresses

variable (address : String) (now : Int)

/-- Every address of the page for charts is answered by its query alone. -/
theorem get_of_chart_path (reaches : (splitAddress address).1 = "/api/chart") :
    service.get setup number address now = .ofResult number
      ((service.history.chartPage setup.years (Query.decode (splitAddress address).2)).map
        .chart) := by
  rw [get, answer]
  simp only [reaches]
  rfl

theorem get_of_counters_path (reaches : (splitAddress address).1 = "/api/counters") :
    service.get setup number address now = .ofResult number
      ((service.history.countersPage setup.zone (Query.decode (splitAddress address).2)).map
        .counters) := by
  rw [get, answer]
  simp only [reaches]
  rfl

end Addresses

theorem get_chart (query : Query) (now : Int) :
    service.get setup number (query.address "/api/chart") now =
      .ofResult number ((service.history.chartPage setup.years query).map .chart) := by
  have split := Query.splitAddress_address "/api/chart" _ query rfl (by decide)
  rw [service.get_of_chart_path setup number _ now (by rw [split]), split, Query.decode_encode]

theorem get_counters (query : Query) (now : Int) :
    service.get setup number (query.address "/api/counters") now =
      .ofResult number ((service.history.countersPage setup.zone query).map .counters) := by
  have split := Query.splitAddress_address "/api/counters" _ query rfl (by decide)
  rw [service.get_of_counters_path setup number _ now (by rw [split]), split, Query.decode_encode]

end Service

end TrafficMeter
