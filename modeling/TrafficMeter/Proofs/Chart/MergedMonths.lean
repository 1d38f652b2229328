import TrafficMeter.Proofs.Chart.PeriodDays
import TrafficMeter.Proofs.Size.Sums
import TrafficMeter.Proofs.Snapshot.MergedTrust
import TrafficMeter.Store.Basic

set_option autoImplicit false

namespace TrafficMeter

namespace Snapshot

variable (first : Snapshot) (others : List Snapshot)

/-- Over a period, the merge of trusted servers holds what all of them hold together. -/
theorem sumPresent_periodDays_merge (trusted : ∀ server ∈ first :: others, server.isTrusted)
    (period : Period) :
    Size.sumPresent ((merge first others).periodDays period) =
      ((first :: others).map fun server => Size.sumPresent (server.periodDays period)).sum := by
  simp only [periodDays, dayValue_merge_of_trusted first others trusted]
  exact Size.sumPresent_map_sumSlots _ _ _

end Snapshot

/-- The parts are what a view shows of one server after the other, and of no more. -/
def ShownByServer {α : Type} (view : Scope → Except LookupFault α) (parts : List α) : Prop :=
  ∀ position part, parts[position]? = some part ↔ view (.server position) = .ok part

/-- A view that shows each server of a batch and refuses the rest shows what it makes of them. -/
theorem shownByServer_map {α : Type} (view : Scope → Except LookupFault α)
    (servers : List Snapshot) (show_server : Snapshot → α)
    (known : ∀ position server, servers[position]? = some server →
      view (.server position) = .ok (show_server server))
    (unknown : ∀ position, servers[position]? = none →
      ∃ reason, view (.server position) = .error reason) :
    ShownByServer view (servers.map show_server) := by
  intro position part
  rw [List.getElem?_map]
  cases found : servers[position]? with
  | none =>
    obtain ⟨reason, refused⟩ := unknown position found
    rw [refused]
    constructor <;>
    · intro impossible
      cases impossible
  | some server =>
    rw [known position server found, Option.map_some, Option.some.injEq, Except.ok.injEq]

namespace Chart

/-- What a chart shows at a point. -/
def valueAt (chart : Chart) (point : Nat) : Option Size := chart.series.values[point]?.join

/-- A chart as wide as others that shows their sum at each point, and nothing only where all of them
show nothing. -/
structure IsSumOf (whole : Chart) (parts : List Chart) : Prop where
  width : ∀ part ∈ parts, part.series.values.length = whole.series.values.length
  absent_iff : ∀ point, whole.valueAt point = none ↔ ∀ part ∈ parts, part.valueAt point = none
  present : ∀ point, whole.valueAt point ≠ none →
    whole.valueAt point = some (Size.sumPresent (parts.map (·.valueAt point)))

/-- The chart of a period's days, reached from the indices of a buffer that begins on `origin`. -/
def ofPeriod (period : Period) (origin : Int) (snapshot : Snapshot) : Chart :=
  ofSource (.days ⟨period, origin⟩) snapshot none (origin - snapshot.firstDay)

variable (period : Period) (origin : Int)

theorem values_ofPeriod (snapshot : Snapshot) :
    (ofPeriod period origin snapshot).series.values =
      snapshot.periodDays period ++ List.replicate (31 - period.dayCount) none :=
  PeriodSpan.values_ofDays snapshot period origin

theorem valueAt_ofPeriod (snapshot : Snapshot) (point : Nat) :
    (ofPeriod period origin snapshot).valueAt point =
      if point < period.dayCount then
        snapshot.dayValue (period.firstDate.epochDay + point)
      else none := by
  rw [valueAt, values_ofPeriod]
  by_cases inside : point < period.dayCount
  · have in_days : point < (snapshot.periodDays period).length := by
      rw [Snapshot.length_periodDays]
      exact inside
    rw [if_pos inside, List.getElem?_append_left in_days,
      snapshot.getElem?_periodDays period point inside, Option.join_some]
  · have after_days : (snapshot.periodDays period).length ≤ point := by
      rw [Snapshot.length_periodDays]
      omega
    rw [if_neg inside, List.getElem?_append_right after_days, List.getElem?_replicate]
    split <;> rfl

/-- Charts sum up as the day buffers do. -/
theorem isSumOf_ofPeriod (whole : Snapshot) (parts : List Snapshot)
    (summed : ∀ day, whole.dayValue day = Size.sumSlots (parts.map (·.dayValue day))) :
    (ofPeriod period origin whole).IsSumOf (parts.map (ofPeriod period origin)) := by
  have point_eq (point : Nat) : (ofPeriod period origin whole).valueAt point =
      Size.sumSlots ((parts.map (ofPeriod period origin)).map (·.valueAt point)) := by
    rw [valueAt_ofPeriod, List.map_map]
    by_cases inside : point < period.dayCount
    · rw [if_pos inside, summed]
      congr 1
      apply List.map_congr_left
      intro part _
      rw [Function.comp_apply, valueAt_ofPeriod, if_pos inside]
    · rw [if_neg inside, eq_comm, Size.sumSlots_eq_none_iff, List.forall_mem_map]
      intro part _
      rw [Function.comp_apply, valueAt_ofPeriod, if_neg inside]
  refine ⟨?_, ?_, ?_⟩
  · rw [List.forall_mem_map]
    intro part _
    simp only [values_ofPeriod, List.length_append, Snapshot.length_periodDays]
  · intro point
    rw [point_eq, Size.sumSlots_eq_none_iff, List.forall_mem_map]
  · intro point shown
    rw [point_eq] at shown ⊢
    exact Size.sumSlots_of_present _ shown

end Chart

/-- With a trusted clock the chart of a month is the one of the snapshot's own days. -/
theorem History.chart_month_of_found (history : History) (batch : Batch) (scope : Scope)
    (snapshot : Snapshot) (chosen : Option Month) (loaded : history.current = some batch)
    (trusted : batch.aggregate.isTrusted) (found : batch.snapshot? scope = some snapshot) :
    history.chart (.month chosen) scope = .ok (Chart.ofPeriod
      (.month (chosen.getD (Date.ofClampedDay batch.aggregate.today).month))
      batch.aggregate.firstDay snapshot) := by
  rw [history.chart_of_found batch scope snapshot _ loaded found,
    ChartSource.ofRange_month chosen batch.aggregate trusted]
  rfl

section View

variable (first : Snapshot) (others : List Snapshot) (history : History)

/-- The batch in which the merge of some servers stands before them. -/
def mergedBatch : Batch := ⟨Snapshot.merge first others, first :: others⟩

variable (loaded : history.current = some (mergedBatch first others))
  (trusted : ∀ server ∈ first :: others, server.isTrusted)

include loaded trusted

theorem chart_mergedBatch (chosen : Option Month) :
    ∃ whole parts, history.chart (.month chosen) .all = .ok whole ∧
      parts.length = (first :: others).length ∧
      ShownByServer (history.chart (.month chosen)) parts ∧ whole.IsSumOf parts := by
  have clock : (mergedBatch first others).aggregate.isTrusted :=
    Snapshot.isTrusted_merge_of_trusted first others trusted
  let month := Period.month
    (chosen.getD (Date.ofClampedDay (mergedBatch first others).aggregate.today).month)
  let shown := Chart.ofPeriod month (mergedBatch first others).aggregate.firstDay
  refine ⟨shown (Snapshot.merge first others), (first :: others).map shown,
    history.chart_month_of_found _ .all _ chosen loaded clock rfl, List.length_map _,
    shownByServer_map _ _ _ ?_ ?_, ?_⟩
  · intro position server found
    exact history.chart_month_of_found _ (.server position) server chosen loaded clock found
  · intro position missing
    exact ⟨_, history.chart_of_missing _ (.server position) _ loaded missing⟩
  · exact Chart.isSumOf_ofPeriod month _ _ _
      (Snapshot.dayValue_merge_of_trusted first others trusted)

theorem summary_mergedBatch (zone : Zone) :
    ∃ whole parts, history.summary .all zone = .ok whole ∧
      parts.length = (first :: others).length ∧
      ShownByServer (history.summary · zone) parts ∧
      (∀ part ∈ parts, part.monthToDate.raw ≠ none) ∧
      whole.monthToDate =
        Counter.ofSize (some (Size.sumPresent (parts.map (·.monthToDate.raw)))) := by
  have clock : (mergedBatch first others).aggregate.isTrusted :=
    Snapshot.isTrusted_merge_of_trusted first others trusted
  let month := Period.month (Date.ofClampedDay (mergedBatch first others).aggregate.today).month
  let shown (server : Snapshot) : Summary :=
    server.summaryWith (some (Size.sumPresent (server.periodDays month))) zone
  refine ⟨_, (first :: others).map shown,
    history.summary_of_found _ .all _ zone loaded rfl, List.length_map _,
    shownByServer_map _ _ _ ?_ ?_, ?_, ?_⟩
  · intro position server found
    rw [history.summary_of_found _ (.server position) server zone loaded found,
      Batch.currentMonthTotal_of_trusted _ (.server position) server clock found]
  · intro position missing
    exact ⟨_, history.summary_of_missing _ (.server position) zone loaded missing⟩
  · rw [List.forall_mem_map]
    intro server _
    exact Option.some_ne_none _
  · rw [Batch.currentMonthTotal_of_trusted _ .all _ clock rfl]
    have summed := Snapshot.sumPresent_periodDays_merge first others trusted month
    show Counter.ofSize (some (Size.sumPresent
      ((Snapshot.merge first others).periodDays month))) = _
    rw [summed, List.map_map, Size.sumPresent_eq_sum, List.map_map]
    rfl

end View

/-- What is shown for all servers together is what they show one by one, added up: at each point of
a month's chart and in the volume of the current month. -/
theorem merged_view_is_sum (servers : List Snapshot) (some_server : servers ≠ [])
    (trusted : ∀ server ∈ servers, server.isTrusted) :
    ∃ batch, Store.batchOf .merged servers = .ok batch ∧
      (∀ file, Store.recordsOf file = .ok servers → Store.fetch .merged file = .ok batch) ∧
      ∀ history : History, history.current = some batch →
        (∀ chosen : Option Month, ∃ whole parts,
          history.chart (.month chosen) .all = .ok whole ∧ parts.length = servers.length ∧
          ShownByServer (history.chart (.month chosen)) parts ∧ whole.IsSumOf parts) ∧
        ∀ zone : Zone, ∃ whole parts,
          history.summary .all zone = .ok whole ∧ parts.length = servers.length ∧
          ShownByServer (history.summary · zone) parts ∧
          (∀ part ∈ parts, part.monthToDate.raw ≠ none) ∧
          whole.monthToDate =
            Counter.ofSize (some (Size.sumPresent (parts.map (·.monthToDate.raw)))) := by
  cases servers with
  | nil => exact absurd rfl some_server
  | cons first others =>
    refine ⟨mergedBatch first others, rfl, ?_, ?_⟩
    · intro file recorded
      rw [Store.fetch, recorded]
      rfl
    · intro history loaded
      exact ⟨chart_mergedBatch first others history loaded trusted,
        summary_mergedBatch first others history loaded trusted⟩

/-- Two servers in February 2020, of which the second was added on the twelfth, when both hold data.
On the eleventh neither does. -/
def overlappingServers : List Snapshot :=
  [.ofDays 18302 2 [some ⟨1, 1048576⟩, none, some ⟨3, 3145728⟩],
    .ofDays 18304 0 [some ⟨2, 2097152⟩]]

/-- The day that both servers share shows the five megabytes of both, and the month shows six. -/
theorem merged_view_is_sum_overlap :
    ∃ batch, Store.batchOf .merged overlappingServers = .ok batch ∧
      ∃ whole parts, (⟨some batch, none⟩ : History).chart (.month none) .all = .ok whole ∧
        whole.IsSumOf parts ∧ parts.length = 2 ∧ whole.valueAt 9 = some ⟨1, 1048576⟩ ∧
        whole.valueAt 10 = none ∧ whole.valueAt 11 = some ⟨5, 5242880⟩ ∧
        ∃ counters, (⟨some batch, none⟩ : History).summary .all .utc = .ok counters ∧
          counters.monthToDate = Counter.ofSize (some ⟨6, 6291456⟩) := by
  obtain ⟨batch, made, _, views⟩ :=
    merged_view_is_sum overlappingServers (by decide) (by decide)
  obtain ⟨charts, summaries⟩ := views ⟨some batch, none⟩ rfl
  obtain ⟨whole, parts, charted, count, _, summed⟩ := charts none
  obtain ⟨counters, _, summarised, _⟩ := summaries .utc
  cases made
  refine ⟨_, rfl, whole, parts, charted, summed, count, ?_, ?_, ?_, counters, summarised, ?_⟩
  · cases charted
    decide
  · cases charted
    decide
  · cases charted
    decide
  · cases summarised
    exact congrArg Counter.ofSize (by decide)

end TrafficMeter
