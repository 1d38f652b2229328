import TrafficMeter.Proofs.Chart.YearMonths
import TrafficMeter.Proofs.Display.PinnedPeriod
import TrafficMeter.Proofs.Service.CommandText
import TrafficMeter.Proofs.Service.Connections
import TrafficMeter.Proofs.Service.Pages

set_option autoImplicit false

namespace TrafficMeter

namespace LiveClient

theorem told_of_error (zone : Zone) (client : LiveClient) (text : String) (command : Command)
    (after : Viewer) (reason : ActionFault) (read : Command.ofText? text = some command)
    (refused : client.viewer.act client.history command.action = (after, .error reason)) :
    client.told zone [.received text] = [.error reason.message] := by
  have answered := client.step_of_rejected zone text command after reason read refused
  simp only [told, answered, List.append_nil]

theorem rendering_of_frame (zone : Zone) (client : LiveClient) (frame : Frame)
    (drawn : client.viewer.render client.history zone = .ok frame) :
    client.rendering zone = [.frame frame] := by
  simp only [rendering, drawn]

/-- A new client has pinned nothing and nothing holds it, so it is drawn at once whatever range it
chooses, for the server that it has asked for before. -/
theorem told_server_then_range (zone : Zone) (years : YearLimits) (history : History)
    (batch : Batch) (index : Nat) (snapshot : Snapshot) (loaded : history.current = some batch)
    (found : batch.snapshot? (.ofIndex index) = some snapshot) (serverText rangeText : String)
    (choice : Command) (range : ChartRange)
    (serverRead : Command.ofText? serverText = some (.server index))
    (rangeRead : Command.ofText? rangeText = some choice)
    (shows : ∀ viewer : Viewer, viewer.years = years →
      viewer.act history choice.action = viewer.act history (.showRange range))
    (frame : Frame) (drawn : history.frame range (.ofIndex index) zone = .ok frame) :
    ((start years history).told zone [.received serverText, .received rangeText]).getLast? =
      some (.frame frame) := by
  -- What the first text leaves behind; no period is pinned yet that a bare range would turn into.
  let served : Viewer := { Viewer.start years with scope := .ofIndex index }
  have first := (start years history).step_of_accepted zone serverText (.server index) served true
    serverRead (Viewer.act_showServer _ history batch _ snapshot loaded found)
  have second := step_of_accepted zone ⟨served, history⟩ rangeText choice
    (served.showRange range).1 true rangeRead (shows served rfl)
  have shown : (served.showRange range).1.render history zone = .ok frame := by
    rw [← drawn]
    show history.frame (Viewer.reopen none range) (.ofIndex index) zone = _
    rw [Viewer.reopen_none]
  have last : (step zone ⟨served, history⟩ (.received rangeText)).2 = [.frame frame] := by
    rw [second]
    exact rendering_of_frame zone ⟨(served.showRange range).1, history⟩ frame shown
  have next : ((start years history).step zone (.received serverText)).1 = ⟨served, history⟩ := by
    rw [first]
    rfl
  rw [told, told, told, next, last, List.append_nil, List.getLast?_append, List.getLast?_singleton]
  rfl

end LiveClient

namespace Service

variable (setup : ServiceSetup) (number : BinaryFraction → Json) (service : Service)

/-- A connection that sends the texts is told, as the last thing, a frame with the same chart and
the same counters as two requests are answered by. -/
def ShowsAlike (id : String) (texts : List String) (chartQuery countersQuery : Query) : Prop :=
  ∃ chart counters : Json,
    (∀ now, service.get setup number (chartQuery.address "/api/chart") now =
        ⟨200, chart, "*"⟩) ∧
      (∀ now, service.get setup number (countersQuery.address "/api/counters") now =
        ⟨200, counters, "*"⟩) ∧
      ((service.told setup id (texts.map (.received id))).map
        (LiveMessage.toJson number)).getLast? =
          some (.ofFields [("type", .ofString "frame"), ("chart", chart), ("counters", counters)])

/-- A connection that sends the text is told one error and nothing more, with the same words as a
request is refused with. -/
def RefusesAlike (id text : String) (status : Nat) (chartQuery : Query) : Prop :=
  ∃ reason : String,
    (∀ now, service.get setup number (chartQuery.address "/api/chart") now =
        ⟨status, .ofFields [("error", .ofString reason)], "*"⟩) ∧
      (service.told setup id [.received id text]).map (LiveMessage.toJson number) =
        [.ofFields [("type", .ofString "error"), ("error", .ofString reason)]]

section Alike

variable (inStep : service.InStep setup) (id : String)

include inStep

theorem showsAlike_of_range (batch : Batch) (loaded : service.history.current = some batch)
    (fresh : ⟨id, some ⟨.start setup.years, service.history⟩⟩ ∈ service.connections)
    (index : UInt64) (inside : index.toNat < batch.size) (rangeText : String) (choice : Command)
    (range : ChartRange) (rangeRead : Command.ofText? rangeText = some choice)
    (shows : ∀ viewer : Viewer, viewer.years = setup.years →
      viewer.act service.history choice.action = viewer.act service.history (.showRange range))
    (chartQuery : Query)
    (asked : service.history.chartPage setup.years chartQuery =
      (service.history.chart range (.ofIndex index.toNat)).mapError .lookup) :
    service.ShowsAlike setup number id
      [Command.written "server" (.int index.toNat), rangeText] chartQuery
      [("server", Decimal.text index.toNat)] := by
  obtain ⟨snapshot, found⟩ := batch.exists_snapshot? index.toNat inside
  obtain ⟨frame, drawn, charted, summed⟩ := service.history.exists_frame batch loaded range _
    setup.zone snapshot found
  have counted := service.history.countersPage_of_scope
    [("server", Decimal.text index.toNat)] setup.zone _ (Query.scope?_of_given _ index rfl)
  refine ⟨frame.chart.toJson number, frame.summary.toJson, ?_, ?_, ?_⟩
  · intro now
    rw [get_chart, asked, charted]
    rfl
  · intro now
    rw [get_counters, counted, summed]
    rfl
  · have last := LiveClient.told_server_then_range setup.zone setup.years service.history batch
      index.toNat snapshot loaded found _ rangeText choice range (Command.ofText?_server index)
      rangeRead shows frame drawn
    rw [inStep.told_received id _ fresh, List.map_cons, List.map_singleton,
      List.getLast?_map]
    exact congrArg (Option.map (LiveMessage.toJson number)) last

theorem refusesAlike_of_action (client : LiveClient)
    (opened : ⟨id, some client⟩ ∈ service.connections) (text : String) (command : Command)
    (after : Viewer) (reason : ActionFault) (fault : RequestFault)
    (read : Command.ofText? text = some command)
    (refused : client.viewer.act client.history command.action = (after, .error reason))
    (same : reason.message = fault.message) (told : ¬ fault.isPlain) (chartQuery : Query)
    (asked : service.history.chartPage setup.years chartQuery = .error fault) :
    service.RefusesAlike setup number id text fault.status chartQuery := by
  refine ⟨fault.message, ?_, ?_⟩
  · intro now
    rw [get_chart, asked]
    show Response.ofResult number (.error fault) = _
    rw [Response.ofResult, if_neg told]
  · have answered := client.told_of_error setup.zone text command after reason read refused
    have own := inStep.told_received id client opened [text]
    rw [List.map_singleton, List.map_singleton] at own
    rw [own, answered, same]
    rfl

end Alike

/-- Requests and live clients are shown the same. A new client that asks for a server and then for a
period or a range is at last told the chart and the counters that the requests for them are answered
by; a period or a server that there is not is refused to every client, in the same words as to a
request. -/
theorem requests_and_live_clients_agree (events : List ServiceEvent) (batch : Batch)
    (loaded : (ofEvents setup events).history.current = some batch) (id : String)
    (client : LiveClient) (opened : ⟨id, some client⟩ ∈ (ofEvents setup events).connections) :
    let service := ofEvents setup events
    (client.viewer = .start setup.years → ∀ index : UInt64, index.toNat < batch.size →
        (∀ input period, Period.parse setup.years input = .ok period →
          service.ShowsAlike setup number id
            [Command.written "server" (.int index.toNat),
              Command.written "period" (.ofString input)]
            [("server", Decimal.text index.toNat), ("period", input)]
            [("server", Decimal.text index.toNat)]) ∧
          (∀ name kind, RangeKind.ofText? name = some kind →
            service.ShowsAlike setup number id
              [Command.written "server" (.int index.toNat),
                Command.written "range" (.ofString name)]
              [("server", Decimal.text index.toNat), ("range", name)]
              [("server", Decimal.text index.toNat)])) ∧
      (∀ input reason, Period.parse setup.years input = .error reason →
        service.RefusesAlike setup number id (Command.written "period" (.ofString input)) 400
          [("period", input)]) ∧
      (∀ index : UInt64, batch.size ≤ index.toNat →
        service.RefusesAlike setup number id (Command.written "server" (.int index.toNat)) 404
          [("server", Decimal.text index.toNat)]) := by
  intro service
  have inStep : service.InStep setup := inStep_ofEvents setup events
  obtain ⟨history_eq, years_eq⟩ := inStep.current id client opened
  refine ⟨?_, ?_, ?_⟩
  · intro start_eq index inside
    have fresh : ⟨id, some ⟨.start setup.years, service.history⟩⟩ ∈ service.connections := by
      rw [← start_eq, ← history_eq]
      exact opened
    constructor
    · intro input period parsed
      apply showsAlike_of_range setup number service inStep id batch loaded fresh index inside _ _
        (.ofPeriod period) (Command.ofText?_period input)
      · intro viewer same_years
        exact viewer.act_enterPeriod service.history input period (same_years ▸ parsed)
      · exact service.history.chartPage_server_period setup.years index input period parsed
    · intro name kind named
      apply showsAlike_of_range setup number service inStep id batch loaded fresh index inside _ _
        (.ofKind kind) (Command.ofText?_range name kind named)
      · intro viewer _
        rfl
      · exact service.history.chartPage_server_range setup.years index name kind named
  · intro input reason refused
    exact refusesAlike_of_action setup number service inStep id client opened _ _ _ _
      (.period reason) (Command.ofText?_period input)
      (client.viewer.act_enterPeriod_of_refused _ input reason (years_eq ▸ refused)) rfl
      Bool.false_ne_true _
      (service.history.chartPage_period_of_refused setup.years input reason refused)
  · intro index outside
    have missing := batch.snapshot?_of_size_le index.toNat outside
    have page := service.history.chartPage_server setup.years index
    rw [service.history.chart_of_missing batch _ _ loaded missing] at page
    rw [← history_eq] at loaded
    have absent := client.history.find_of_missing batch _ loaded missing
    exact refusesAlike_of_action setup number service inStep id client opened _ _ _ _ (.lookup _)
      (Command.ofText?_server index)
      (client.viewer.act_showServer_of_refused client.history _ _ absent) rfl Bool.false_ne_true _
      page

/-- A service that has published one batch, with one connection made since. -/
def springEvents : List ServiceEvent := [.published springBatch, .connected "a"]

def springSetup : ServiceSetup := ⟨.provided, .standard, .utc⟩

theorem requests_and_live_clients_agree_spring :
    let service := ofEvents springSetup springEvents
    let number : BinaryFraction → Json := fun fraction => .int fraction.numerator
    service.ShowsAlike springSetup number "a"
        [Command.written "server" (.int 0), Command.written "period" (.ofString " 2020-05\n")]
        [("server", "0"), ("period", " 2020-05\n")] [("server", "0")] ∧
      service.ShowsAlike springSetup number "a"
        [Command.written "server" (.int 0), Command.written "range" (.ofString "min")]
        [("server", "0"), ("range", "min")] [("server", "0")] ∧
      service.RefusesAlike springSetup number "a"
        (Command.written "period" (.ofString "2020-13")) 400 [("period", "2020-13")] ∧
      service.RefusesAlike springSetup number "a" (Command.written "server" (.int 7)) 404
        [("server", "7")] := by
  intro service number
  obtain ⟨shown, refusedPeriod, refusedServer⟩ := requests_and_live_clients_agree springSetup
    number springEvents springBatch rfl "a" _ (List.mem_singleton.mpr rfl)
  obtain ⟨periods, ranges⟩ := shown rfl 0 (by decide)
  exact ⟨periods " 2020-05\n" _ rfl, ranges "min" _ rfl, refusedPeriod "2020-13" _ rfl,
    refusedServer 7 (by decide)⟩

end Service

end TrafficMeter
