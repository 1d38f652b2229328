import TrafficMeter.Proofs.Service.Pages

set_option autoImplicit false

namespace TrafficMeter

namespace Query

/-- A parameter that is given more than once, or by a text that is not accepted. -/
inductive Faulty (query : Query) (name : String) (Accepted : String → Prop) : Prop
  | repeated (often : 2 ≤ (query.values name).length)
  | refused {text : String} (given : query.values name = [text]) (wrong : ¬ Accepted text)

/-- A query that names no server well. -/
def RefusedForServer (query : Query) : Prop :=
  query.Faulty "server" fun text => ∃ index, serverIndex? text = some index

/-- What a request for a chart is refused for, whatever there is to show. -/
inductive RefusedForChart (years : YearLimits) (query : Query) : Prop
  | range (faulty : query.Faulty "range" fun text => ∃ kind, RangeKind.ofText? text = some kind)
  | server (faulty : query.RefusedForServer)
  | period (faulty : query.Faulty "period" fun text =>
      ∃ period, Period.parse years text = .ok period)
  | unfit {range input : String} {kind : RangeKind} {period : Period}
      (ranged : query.values "range" = [range]) (named : RangeKind.ofText? range = some kind)
      (given : query.values "period" = [input]) (parsed : Period.parse years input = .ok period)
      (bound : kind = .month ∨ kind = .year) (other : kind ≠ (ChartRange.ofPeriod period).kind)

/-- The server that is named; without one it is the aggregate. -/
def serverIndex (query : Query) : Nat :=
  ((query.values "server").head?.bind serverIndex?).getD 0

section Parameters

variable {α : Type} (query : Query) (name : String) (read : String → Option α)

theorem parameter?_eq_none_iff :
    query.parameter? name read = none ↔
      query.Faulty name fun text => ∃ value, read text = some value := by
  unfold parameter?
  constructor
  · intro missing
    cases given : query.values name with
    | nil => simp [given] at missing
    | cons text others =>
      cases others with
      | nil =>
        refine .refused given ?_
        rintro ⟨value, reads⟩
        simp [given, reads] at missing
      | cons _ _ => exact .repeated (by simp [given])
  · intro faulty
    cases faulty with
    | repeated often =>
      split
      · simp_all
      · simp_all
      · rfl
    | refused given wrong =>
      have unread := Option.eq_none_iff_forall_ne_some.mpr fun value reads => wrong ⟨value, reads⟩
      simp only [given, unread, Option.map_none]

section Sound

variable (sound : ¬ query.Faulty name fun text => ∃ value, read text = some value)

include sound

/-- A parameter that is not faulty is left out, or it is given by one text. -/
theorem values_of_sound :
    query.values name = [] ∨ ∃ text value, query.values name = [text] ∧ read text = some value := by
  cases given : query.values name with
  | nil => exact .inl rfl
  | cons text others =>
    cases others with
    | nil =>
      cases reads : read text with
      | none => exact absurd (.refused given (by simp [reads])) sound
      | some value => exact .inr ⟨text, value, rfl, reads⟩
    | cons _ _ => exact absurd (.repeated (by simp [given])) sound

theorem parameter?_of_sound :
    ∃ found, query.parameter? name read = some found ∧
      ∀ value, found = some value →
        ∃ text, query.values name = [text] ∧ read text = some value := by
  rcases query.values_of_sound name read sound with absent | ⟨text, value, given, reads⟩
  · exact ⟨none, query.parameter?_of_absent name read absent, nofun⟩
  · refine ⟨some value, query.parameter?_of_given name read text value given reads, ?_⟩
    intro other same
    cases same
    exact ⟨text, given, reads⟩

end Sound

theorem scope?_of_sound (sound : ¬ query.RefusedForServer) :
    query.scope? = some (.ofIndex query.serverIndex) := by
  rcases query.values_of_sound "server" serverIndex? sound with
    absent | ⟨text, index, given, reads⟩
  · rw [query.scope?_of_absent absent]
    simp only [serverIndex, absent, List.head?_nil, Option.bind_none, Option.getD_none]
    rfl
  · have found := query.parameter?_of_given "server" serverIndex? text index given reads
    simp only [scope?, found, serverIndex, given, reads, Option.map_some, List.head?_cons,
      Option.bind_some, Option.getD_some]

theorem scope?_eq_none_iff : query.scope? = none ↔ query.RefusedForServer := by
  rw [scope?, Option.map_eq_none_iff, parameter?_eq_none_iff]
  rfl

end Parameters

end Query

namespace ChartRange

/-- A kind of range and a period make a range, unless the kind is one of periods and the period is
of the other kind. -/
theorem exists_ofParts (kind : Option RangeKind) (period : Option Period)
    (fits : ∀ named shown, kind = some named → period = some shown →
      named = .month ∨ named = .year → named = (ofPeriod shown).kind) :
    ∃ range, ofParts kind period = .ok range := by
  cases kind with
  | none => cases period <;> exact ⟨_, rfl⟩
  | some named =>
    cases period with
    | none => cases named <;> exact ⟨_, rfl⟩
    | some shown =>
      have same := fits named shown rfl rfl
      cases named with
      | minute | hour | day => cases shown <;> exact ⟨_, rfl⟩
      | month =>
        cases shown with
        | month _ => exact ⟨_, rfl⟩
        | year _ => cases same (.inl rfl)
      | year =>
        cases shown with
        | month _ => cases same (.inr rfl)
        | year _ => exact ⟨_, rfl⟩

theorem ofParts_of_unfit (kind : RangeKind) (period : Period)
    (bound : kind = .month ∨ kind = .year) (other : kind ≠ (ofPeriod period).kind) :
    ofParts (some kind) (some period) = .error (.mismatch period kind) := by
  rcases bound with rfl | rfl
  · cases period with
    | month _ => exact absurd rfl other
    | year _ => rfl
  · cases period with
    | month _ => rfl
    | year _ => exact absurd rfl other

end ChartRange

namespace Query

variable (years : YearLimits) (query : Query)

theorem chartRequest?_eq_some_iff (request : ChartRequest) :
    query.chartRequest? = some request ↔
      query.parameter? "range" RangeKind.ofText? = some request.range ∧
        query.scope? = some request.scope ∧
        query.parameter? "period" some = some request.period := by
  simp only [chartRequest?, Option.bind_eq_bind, Option.bind_eq_some_iff, Option.pure_def,
    Option.some.injEq]
  constructor
  · rintro ⟨range, rangeRead, scope, scopeRead, period, periodRead, rfl⟩
    exact ⟨rangeRead, scopeRead, periodRead⟩
  · rintro ⟨rangeRead, scopeRead, periodRead⟩
    exact ⟨_, rangeRead, _, scopeRead, _, periodRead, rfl⟩

section Sound

variable (sound : ¬ query.RefusedForChart years)

include sound

theorem exists_input :
    ∃ input, query.parameter? "period" some = some input ∧
      ∀ text, input = some text → query.values "period" = [text] := by
  have accepted : ¬ query.Faulty "period" fun text => ∃ value, some text = some value := by
    intro faulty
    cases faulty with
    | repeated often => exact sound (.period (.repeated often))
    | refused _ wrong => exact wrong ⟨_, rfl⟩
  obtain ⟨input, found, given⟩ := query.parameter?_of_sound "period" some accepted
  refine ⟨input, found, ?_⟩
  intro text same
  obtain ⟨written, given, reads⟩ := given text same
  cases reads
  exact given

theorem exists_period (input : Option String)
    (given : ∀ text, input = some text → query.values "period" = [text]) :
    ∃ period, input.mapM (Period.parse years) = .ok period ∧
      ∀ shown, period = some shown →
        ∃ text, query.values "period" = [text] ∧ Period.parse years text = .ok shown := by
  cases input with
  | none => exact ⟨none, rfl, nofun⟩
  | some text =>
    cases parsed : Period.parse years text with
    | error reason => exact absurd (.period (.refused (given text rfl) (by simp [parsed]))) sound
    | ok period =>
      refine ⟨some period, ?_, ?_⟩
      · rw [Option.mapM_some, parsed]
        rfl
      · intro shown same
        cases same
        exact ⟨text, given text rfl, parsed⟩

/-- A query without a fault asks for a range of the server that it names. -/
theorem exists_chosenRange :
    ∃ request range, query.chartRequest? = some request ∧
      request.chosenRange years = .ok range ∧ request.scope = .ofIndex query.serverIndex := by
  obtain ⟨kind, kindRead, named⟩ :=
    query.parameter?_of_sound "range" RangeKind.ofText? (mt .range sound)
  obtain ⟨input, inputRead, given⟩ := query.exists_input years sound
  obtain ⟨period, parsed, shown⟩ := query.exists_period years sound input given
  have scopeRead := query.scope?_of_sound (mt .server sound)
  obtain ⟨range, combined⟩ : ∃ range, ChartRange.ofParts kind period = .ok range := by
    apply ChartRange.exists_ofParts
    intro chosen wanted kind_eq period_eq bound
    obtain ⟨text, ranged, reads⟩ := named chosen kind_eq
    obtain ⟨entry, entered, reads'⟩ := shown wanted period_eq
    by_cases same : chosen = (ChartRange.ofPeriod wanted).kind
    · exact same
    · exact absurd (.unfit ranged reads entered reads' bound same) sound
  refine ⟨⟨kind, .ofIndex query.serverIndex, input⟩, range, ?_, ?_, rfl⟩
  · rw [chartRequest?_eq_some_iff]
    exact ⟨kindRead, scopeRead, inputRead⟩
  · rw [ChartRequest.chosenRange, parsed]
    exact combined

end Sound

/-- A query with a fault is not read, or what is read comes to no range. -/
theorem chosenRange_of_refused (refused : query.RefusedForChart years) (request : ChartRequest)
    (asked : query.chartRequest? = some request) :
    ∃ reason, request.chosenRange years = .error reason := by
  obtain ⟨rangeRead, scopeRead, periodRead⟩ := (query.chartRequest?_eq_some_iff request).mp asked
  cases refused with
  | range faulty =>
    rw [(query.parameter?_eq_none_iff "range" RangeKind.ofText?).mpr faulty] at rangeRead
    cases rangeRead
  | server faulty =>
    rw [query.scope?_eq_none_iff.mpr faulty] at scopeRead
    cases scopeRead
  | period faulty =>
    cases faulty with
    | repeated often =>
      rw [(query.parameter?_eq_none_iff "period" some).mpr (.repeated often)] at periodRead
      cases periodRead
    | @refused text given wrong =>
      rw [query.parameter?_of_given "period" some text text given rfl] at periodRead
      cases parsed : Period.parse years text with
      | ok period => exact absurd ⟨period, parsed⟩ wrong
      | error reason =>
        refine ⟨reason, ?_⟩
        rw [ChartRequest.chosenRange, ← Option.some.inj periodRead, Option.mapM_some, parsed]
        rfl
  | @unfit rangeText input kind period ranged named given parsed bound other =>
    rw [query.parameter?_of_given "range" RangeKind.ofText? rangeText kind ranged named]
      at rangeRead
    rw [query.parameter?_of_given "period" some input input given rfl] at periodRead
    refine ⟨.mismatch period kind, ?_⟩
    rw [ChartRequest.chosenRange, ← Option.some.inj periodRead, ← Option.some.inj rangeRead,
      Option.mapM_some, parsed]
    exact ChartRange.ofParts_of_unfit kind period bound other

end Query

namespace History

variable (history : History)

theorem find_of_unloaded (scope : Scope) (unloaded : history.current = none) :
    history.find scope = .error .noSnapshot := by
  simp only [find, unloaded]

/-- A chart is drawn of whatever is found. -/
theorem exists_chart_eq_map (range : ChartRange) (scope : Scope) :
    ∃ draw : Batch × Snapshot → Chart,
      history.chart range scope = (history.find scope).map draw := by
  refine ⟨fun found => found.1.chartOf range found.2
    (history.previous.bind (·.snapshot? scope)), ?_⟩
  rw [chart]
  cases history.find scope <;> rfl

theorem exists_summary_eq_map (scope : Scope) (zone : Zone) :
    ∃ draw : Batch × Snapshot → Summary,
      history.summary scope zone = (history.find scope).map draw := by
  refine ⟨fun found => found.2.summaryWith (found.1.currentMonthTotal scope) zone, ?_⟩
  rw [summary]
  cases history.find scope <;> rfl

/-- A query with a fault is refused in the same way over any data. -/
theorem chartPage_of_refused (years : YearLimits) (query : Query)
    (refused : query.RefusedForChart years) :
    ∃ fault : RequestFault, fault.status = 400 ∧
      ∀ history : History, history.chartPage years query = .error fault := by
  cases asked : query.chartRequest? with
  | none =>
    refine ⟨.badQuery, rfl, ?_⟩
    intro history
    rw [chartPage, asked]
    rfl
  | some request =>
    obtain ⟨reason, chosen⟩ := query.chosenRange_of_refused years refused request asked
    refine ⟨.period reason, rfl, ?_⟩
    intro history
    rw [history.chartPage_of_request years query request asked, chosen]

/-- A query without a fault is answered by what is found of the server that it names. -/
theorem exists_chartPage_eq_map (years : YearLimits) (query : Query)
    (sound : ¬ query.RefusedForChart years) :
    ∃ draw : Batch × Snapshot → Chart, history.chartPage years query =
      ((history.find (.ofIndex query.serverIndex)).map draw).mapError .lookup := by
  obtain ⟨request, range, asked, chosen, scope_eq⟩ := query.exists_chosenRange years sound
  obtain ⟨draw, charted⟩ := history.exists_chart_eq_map range request.scope
  refine ⟨draw, ?_⟩
  rw [history.chartPage_of_request years query request asked, chosen, ← scope_eq, ← charted]

theorem countersPage_of_refused (zone : Zone) (query : Query) (refused : query.RefusedForServer) :
    history.countersPage zone query = .error .badQuery := by
  rw [countersPage, query.scope?_eq_none_iff.mpr refused]
  rfl

theorem exists_countersPage_eq_map (zone : Zone) (query : Query)
    (sound : ¬ query.RefusedForServer) :
    ∃ draw : Batch × Snapshot → Summary, history.countersPage zone query =
      ((history.find (.ofIndex query.serverIndex)).map draw).mapError .lookup := by
  obtain ⟨draw, summed⟩ := history.exists_summary_eq_map (.ofIndex query.serverIndex) zone
  refine ⟨draw, ?_⟩
  rw [history.countersPage_of_scope query zone _ (query.scope?_of_sound sound), summed]

end History

/-- How a request for one server is classified: by itself if there is a fault in it, else by whether
there is any data, and then by whether the server is part of it. -/
structure Response.Classified (response : Response) (refused : Prop) (history : History)
    (index : Nat) : Prop where
  badRequest : response.status = 400 ↔ refused
  unavailable : response.status = 503 ↔ ¬ refused ∧ history.current = none
  notFound : response.status = 404 ↔
    ¬ refused ∧ ∃ batch, history.current = some batch ∧ batch.size ≤ index
  success : response.status = 200 ↔
    ¬ refused ∧ ∃ batch, history.current = some batch ∧ index < batch.size
  noOther : response.status ∈ [200, 400, 404, 503]

namespace Response

variable (number : BinaryFraction → Json) {refused : Prop} {history : History} {index : Nat}

theorem classified_of_refused (response : Response) (fault : refused)
    (told : response.status = 400) : response.Classified refused history index := by
  constructor <;> simp [told, fault]

/-- A page that shows whatever is found answers by what is found. -/
theorem classified_of_find {α : Type} (page : α → Page) (draw : Batch × Snapshot → α)
    (sound : ¬ refused) :
    (ofResult number ((((history.find (.ofIndex index)).map draw).mapError .lookup).map
      page)).Classified refused history index := by
  cases loaded : history.current with
  | none =>
    rw [history.find_of_unloaded (.ofIndex index) loaded]
    constructor <;> simp [ofResult, Except.map, Except.mapError, RequestFault.status, sound, loaded]
  | some batch =>
    by_cases inside : index < batch.size
    · obtain ⟨snapshot, present⟩ := batch.exists_snapshot? index inside
      rw [history.find_of_found batch _ snapshot loaded present]
      constructor <;> simp [ofResult, Except.map, Except.mapError, sound, loaded, inside]
    · have outside := Nat.le_of_not_lt inside
      have missing := batch.snapshot?_of_size_le index outside
      rw [history.find_of_missing batch _ loaded missing]
      constructor <;>
        simp [ofResult, Except.map, Except.mapError, RequestFault.status, sound, loaded, inside,
          outside]

end Response

namespace Service

/-- A page that judges every request by its query first: one with a fault is refused in the same way
whatever the service holds and whenever it comes in. -/
structure JudgesFirst (setup : ServiceSetup) (number : BinaryFraction → Json) (path : String)
    (Refuses : Query → Prop) : Prop where
  classified : ∀ (address : String) (service : Service) (now : Int),
    (splitAddress address).1 = path →
      (service.get setup number address now).Classified
        (Refuses (Query.decode (splitAddress address).2)) service.history
        (Query.decode (splitAddress address).2).serverIndex
  sameForAll : ∀ address : String, (splitAddress address).1 = path →
    Refuses (Query.decode (splitAddress address).2) → ∀ (service other : Service) (now later : Int),
      service.get setup number address now = other.get setup number address later
  everyQuery : ∀ text : List Char, '#' ∉ text →
    splitAddress (String.ofList (path.toList ++ '?' :: text)) = (path, text)

variable (setup : ServiceSetup) (number : BinaryFraction → Json)

/-- A page judges its requests first if its faults are found without data, and all else in the
server that the query names. -/
theorem judgesFirst_of_page {α : Type} (path : String) (onward : List Char)
    (Refuses : Query → Prop) (page : α → Page)
    (result : History → Query → Except RequestFault α) (begins : path.toList = '/' :: onward)
    (unmarked : '?' ∉ path.toList ∧ '#' ∉ path.toList)
    (served : ∀ (service : Service) (address : String) (now : Int),
      (splitAddress address).1 = path → service.get setup number address now =
        .ofResult number
          ((result service.history (Query.decode (splitAddress address).2)).map page))
    (refused : ∀ query, Refuses query → ∃ fault : RequestFault, fault.status = 400 ∧
      ∀ history, result history query = .error fault)
    (shown : ∀ query, ¬ Refuses query → ∀ history : History, ∃ draw : Batch × Snapshot → α,
      result history query =
        ((history.find (.ofIndex query.serverIndex)).map draw).mapError .lookup) :
    JudgesFirst setup number path Refuses := by
  refine ⟨?_, ?_, ?_⟩
  · intro address service now reaches
    rw [served service address now reaches]
    by_cases faulty : Refuses (Query.decode (splitAddress address).2)
    · obtain ⟨fault, status_eq, result_eq⟩ := refused _ faulty
      rw [result_eq]
      exact Response.classified_of_refused _ faulty status_eq
    · obtain ⟨draw, result_eq⟩ := shown _ faulty service.history
      rw [result_eq]
      exact Response.classified_of_find number page draw faulty
  · intro address reaches faulty service other now later
    obtain ⟨fault, _, result_eq⟩ := refused _ faulty
    rw [served service address now reaches, served other address later reaches, result_eq,
      result_eq]
  · intro text sent
    exact Query.splitAddress_of_unmarked path onward text begins unmarked sent

/-- Charts and counters are asked for by any text behind the question mark. Every such text is
classified before the data is looked at: by its faults, then by whether there is any data, then by
whether there is the server, and all that is left succeeds. -/
theorem requests_are_judged_before_data :
    JudgesFirst setup number "/api/chart" (·.RefusedForChart setup.years) ∧
      JudgesFirst setup number "/api/counters" Query.RefusedForServer := by
  constructor
  · apply judgesFirst_of_page setup number "/api/chart" _ _ Page.chart
      (History.chartPage · setup.years) rfl (by decide)
    · intro service address now reaches
      exact service.get_of_chart_path setup number address now reaches
    · exact History.chartPage_of_refused setup.years
    · intro query sound history
      exact history.exists_chartPage_eq_map setup.years query sound
  · apply judgesFirst_of_page setup number "/api/counters" _ _ Page.counters
      (History.countersPage · setup.zone) rfl (by decide)
    · intro service address now reaches
      exact service.get_of_counters_path setup number address now reaches
    · intro query faulty
      exact ⟨.badQuery, rfl, fun history => history.countersPage_of_refused setup.zone query faulty⟩
    · intro query sound history
      exact history.exists_countersPage_eq_map setup.zone query sound

/-- A service that holds an aggregate without a clock and without data, and nothing else. -/
def bareService : Service :=
  { start with history := ⟨some ⟨.ofDays 0 (-7) [], []⟩, none⟩ }

/-- A year does not fit a range of months, with data and without. A plus sign is a blank unless it
is escaped, and then leads a number. -/
theorem requests_are_judged_before_data_bare :
    let setup : ServiceSetup := ⟨.provided, .standard, .utc⟩
    let number : BinaryFraction → Json := fun fraction => .int fraction.numerator
    let unfit := "/api/chart?range=month&period=2020&server=7"
    start.get setup number unfit 0 = bareService.get setup number unfit 1 ∧
      (start.get setup number unfit 0).status = 400 ∧
      (bareService.get setup number "/api/counters?server=+0" 0).status = 400 ∧
      (start.get setup number "/api/counters?server=%2B00" 0).status = 503 ∧
      (bareService.get setup number "/api/counters?server=%2B1" 0).status = 404 ∧
      (bareService.get setup number "/api/counters?server=%2B00" 0).status = 200 := by
  intro setup number unfit
  obtain ⟨charts, counters⟩ := requests_are_judged_before_data setup number
  have reaches : (splitAddress unfit).1 = "/api/chart" := by decide +kernel
  have decoded : Query.decode (splitAddress unfit).2 =
      [("range", "month"), ("period", "2020"), ("server", "7")] := by decide +kernel
  have refused : (Query.decode (splitAddress unfit).2).RefusedForChart setup.years := by
    rw [decoded]
    exact .unfit rfl rfl rfl (show _ = Except.ok (Period.year 2020) from rfl) (.inl rfl) (by decide)
  have classified (service : Service) (address text : String) (query : Query)
      (split : splitAddress address = ("/api/counters", text.toList))
      (read : Query.decode text.toList = query) :
      (service.get setup number address 0).Classified query.RefusedForServer service.history
        query.serverIndex := by
    have own := counters.classified address service 0 (by rw [split])
    rwa [split, read] at own
  have blank := classified bareService "/api/counters?server=+0" "server=+0" [("server", " 0")]
    (by decide +kernel) (by decide +kernel)
  have zero (service : Service) := classified service "/api/counters?server=%2B00" "server=%2B00"
    [("server", "+00")] (by decide +kernel) (by decide +kernel)
  have one := classified bareService "/api/counters?server=%2B1" "server=%2B1" [("server", "+1")]
    (by decide +kernel) (by decide +kernel)
  refine ⟨charts.sameForAll unfit reaches refused _ _ _ _, ?_, ?_, ?_, ?_, ?_⟩
  · exact (charts.classified unfit start 0 reaches).badRequest.mpr refused
  · exact blank.badRequest.mpr ((Query.scope?_eq_none_iff _).mp (by decide))
  · exact (zero start).unavailable.mpr ⟨mt (Query.scope?_eq_none_iff _).mpr (by decide), rfl⟩
  · exact one.notFound.mpr ⟨mt (Query.scope?_eq_none_iff _).mpr (by decide), _, rfl, by decide⟩
  · exact (zero bareService).success.mpr
      ⟨mt (Query.scope?_eq_none_iff _).mpr (by decide), _, rfl, by decide⟩

end Service

end TrafficMeter
