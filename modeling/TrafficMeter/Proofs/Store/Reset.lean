import TrafficMeter.Proofs.Snapshot.Wire
import TrafficMeter.Proofs.Store.ResetRecords
import TrafficMeter.Service.App

set_option autoImplicit false

namespace TrafficMeter

/-- An address at which a reset of the scope is asked for. -/
def Scope.IsResetAddress (scope : Scope) (address : String) : Prop :=
  (splitAddress address).1 = "/api/reset" ∧
    (Query.decode (splitAddress address).2).scope? = some scope

/-- Every request for the reset that reaches a service with the text as its file has this answer,
and leaves the service like this. -/
def Service.ResetComesTo (source : AggregateSource) (now : Int) (scope : Scope) (text : String)
    (answer : Except RequestFault Page) (left : Service → Service) : Prop :=
  ∀ (setup : ServiceSetup) (service : Service) (address : String), setup.source = source →
    service.file = some text → scope.IsResetAddress address →
      service.answer setup .post address now = (answer, left service)

/-- The service answers as the store does, and takes on the file only if the store gives one. -/
theorem Service.answer_reset (setup : ServiceSetup) (service : Service) (scope : Scope)
    (address : String) (now : Int) (asked : scope.IsResetAddress address) :
    service.answer setup .post address now =
      match Store.reset setup.source now scope service.file with
      | .error reason => (.error (.store reason), service)
      | .ok file =>
        (.ok (.reset scope.index), { service with file := some file, refreshWanted := true }) := by
  obtain ⟨path_eq, scope_eq⟩ := asked
  have route : findRoute .post "/api/reset" = .ok .reset := rfl
  simp only [answer, path_eq, route, resetPage, scope_eq]
  cases Store.reset setup.source now scope service.file <;> rfl

example : (Scope.server 2).IsResetAddress "/api/reset?server=3" := by
  unfold Scope.IsResetAddress
  cbv

namespace Store

variable (source : AggregateSource) (now : Int) (scope : Scope) (records : List Snapshot)
  (text : String)

theorem fetch_text (decoded : Snapshot.listOfText? text = some records) :
    fetch source (some text) = batchOf source records := by
  rw [fetch, recordsOf, decoded]
  rfl

theorem reset_eq_error_iff (decoded : Snapshot.listOfText? text = some records)
    (reason : StoreFault) :
    reset source now scope (some text) = .error reason ↔
      resetRecords source now scope records = .error reason := by
  rw [reset, recordsOf, decoded]
  change (resetRecords source now scope records).map Snapshot.listText = _ ↔ _
  cases resetRecords source now scope records <;> simp [Except.map]

theorem reset_eq_ok_iff (decoded : Snapshot.listOfText? text = some records) (file : String) :
    reset source now scope (some text) = .ok file ↔
      ∃ changed, resetRecords source now scope records = .ok changed ∧
        Snapshot.listText changed = file := by
  rw [reset, recordsOf, decoded]
  change (resetRecords source now scope records).map Snapshot.listText = _ ↔ _
  cases resetRecords source now scope records <;> simp [Except.map]

theorem inRange_of_releaseFromAggregate (removed : Size)
    (inRange : ∀ record ∈ records, record.InRange) :
    ∀ record ∈ releaseFromAggregate removed records, record.InRange := by
  cases records with
  | nil => exact inRange
  | cons aggregate servers =>
    obtain ⟨first, others⟩ := List.forall_mem_cons.mp inRange
    exact List.forall_mem_cons.mpr ⟨first.withCustom _, others⟩

/-- A reset writes nothing that a record could not hold. -/
theorem inRange_of_resetRecords (changed : List Snapshot) (fits : Json.IsInt64 now)
    (inRange : ∀ record ∈ records, record.InRange)
    (reset : resetRecords source now scope records = .ok changed) :
    ∀ record ∈ changed, record.InRange := by
  cases scope with
  | all =>
    cases reset
    rw [List.forall_mem_map]
    exact fun record member => (inRange record member).resetCustom now fits
  | server position =>
    rw [resetRecords] at reset
    split at reset
    · cases reset
    · rename_i record found
      have kept : ∀ other ∈ records.set (recordIndex source position) (record.resetCustom now),
          other.InRange := by
        intro other member
        rcases List.mem_or_eq_of_mem_set member with member | rfl
        · exact inRange other member
        · exact (inRange record (List.mem_of_getElem? found)).resetCustom now fits
      cases source with
      | provided =>
        cases reset
        exact inRange_of_releaseFromAggregate _ _ kept
      | merged =>
        cases reset
        exact kept

/-- What a reset has written is read back. -/
theorem listOfText?_after_reset (decoded : Snapshot.listOfText? text = some records)
    (changed : List Snapshot) (fits : Json.IsInt64 now)
    (reset : resetRecords source now scope records = .ok changed) :
    Snapshot.listOfText? (Snapshot.listText changed) = some changed := by
  -- Records that came out of a text fit their fields, so they can go back into one.
  have inRange := inRange_of_resetRecords source now scope records changed fits
    (Snapshot.inRange_of_listOfText? text records decoded) reset
  exact Snapshot.listOfText?_listText changed inRange

/-- What a reset has written is fetched as the records that it made. -/
theorem fetch_after_reset (decoded : Snapshot.listOfText? text = some records)
    (changed : List Snapshot) (fits : Json.IsInt64 now)
    (reset : resetRecords source now scope records = .ok changed) :
    fetch source (some (Snapshot.listText changed)) = batchOf source changed :=
  fetch_text source changed _
    (listOfText?_after_reset source now scope records text decoded changed fits reset)

/-- Only a server can be unknown. -/
theorem resetRecords_eq_error (reason : StoreFault)
    (refused : resetRecords source now scope records = .error reason) :
    reason = .unknownServer scope.index := by
  cases scope with
  | all => cases refused
  | server position =>
    rw [resetRecords] at refused
    split at refused
    · cases refused
      rfl
    · cases source <;> cases refused

/-- A reset and a fetch mean the same server, whether the aggregate is stored or merged. A reset of
an entry that a fetch does not show is refused and leaves the file; any other succeeds, and what the
next fetch shows is as it was but for the counters that were reset and those of the aggregate. -/
theorem reset_agrees_with_fetch (decoded : Snapshot.listOfText? text = some records)
    (isSet : now ≠ 0) (fits : Json.IsInt64 now) :
    (∀ reason, reset source now scope (some text) = .error reason →
      reason = .unknownServer scope.index ∧
        Service.ResetComesTo source now scope text (.error (.store reason)) id) ∧
    (∀ file, reset source now scope (some text) = .ok file →
      Service.ResetComesTo source now scope text (.ok (.reset scope.index))
        ({ · with file := some file, refreshWanted := true })) ∧
    (records ≠ [] → ∃ before, fetch source (some text) = .ok before ∧
      ((∃ file, reset source now scope (some text) = .ok file) ↔
        before.snapshot? scope ≠ none) ∧
      ∀ file, reset source now scope (some text) = .ok file →
        ∃ after, fetch source (some file) = .ok after ∧
          Batch.IsReset source now scope before after) := by
  refine ⟨fun reason refused => ⟨?_, ?_⟩, fun file done => ?_, fun some_record => ?_⟩
  · rw [reset_eq_error_iff source now scope records text decoded] at refused
    exact resetRecords_eq_error source now scope records reason refused
  · rintro setup service address rfl file_eq asked
    rw [Service.answer_reset setup service scope address now asked, file_eq, refused]
    rfl
  · rintro setup service address rfl file_eq asked
    rw [Service.answer_reset setup service scope address now asked, file_eq, done]
  · obtain ⟨before, made⟩ := exists_batchOf source records some_record
    obtain ⟨unknown, known⟩ := resetRecords_isReset source now scope records before isSet made
    have shown (file : String) (done : reset source now scope (some text) = .ok file) :
        before.snapshot? scope ≠ none := by
      intro missing
      have refused :=
        (reset_eq_error_iff source now scope records text decoded _).mpr (unknown missing)
      rw [refused] at done
      cases done
    refine ⟨before, ?_, ⟨fun ⟨file, done⟩ => shown file done, fun present => ?_⟩, ?_⟩
    · rw [fetch_text source records text decoded, made]
    · obtain ⟨changed, -, reset_records, -, -⟩ := known present
      exact ⟨_, (reset_eq_ok_iff source now scope records text decoded _).mpr
        ⟨changed, reset_records, rfl⟩⟩
    · intro file done
      obtain ⟨changed, after, reset_records, made_after, isReset⟩ := known (shown file done)
      obtain ⟨written, written_eq, rfl⟩ :=
        (reset_eq_ok_iff source now scope records text decoded file).mp done
      rw [reset_records] at written_eq
      cases written_eq
      have refetched :=
        fetch_after_reset source now scope records text decoded changed fits reset_records
      exact ⟨after, refetched.trans made_after, isReset⟩

/-- Records of two servers, which counted two megabytes and one. -/
def twoServers : List Snapshot :=
  [{ counting ⟨2, 2097152⟩ with serverId := 1 }, { counting ⟨1, 1048576⟩ with serverId := 2 }]

theorem listOfText?_twoServers :
    Snapshot.listOfText? (Snapshot.listText twoServers) = some twoServers :=
  Snapshot.listOfText?_listText twoServers (by decide)

/-- When the first of two servers is reset, the megabyte of the other is left; a third one is
unknown. -/
theorem reset_agrees_with_fetch_twoServers :
    (∃ before file after, fetch .merged (some (Snapshot.listText twoServers)) = .ok before ∧
      reset .merged 7 (.server 0) (some (Snapshot.listText twoServers)) = .ok file ∧
      fetch .merged (some file) = .ok after ∧
      Batch.IsReset .merged 7 (.server 0) before after ∧
      after.aggregate.custom = ⟨1, 1048576⟩) ∧
    Service.ResetComesTo .merged 7 (.server 2) (Snapshot.listText twoServers)
      (.error (.store (.unknownServer 3))) id := by
  constructor
  · obtain ⟨-, -, agrees⟩ := reset_agrees_with_fetch .merged 7 (.server 0) _ _
      listOfText?_twoServers (by decide) (by decide)
    obtain ⟨before, fetched, succeeds_iff, isReset⟩ := agrees nofun
    have made := fetched
    rw [fetch_text .merged _ _ listOfText?_twoServers] at made
    cases made
    obtain ⟨file, done⟩ := succeeds_iff.mpr nofun
    obtain ⟨after, refetched, isReset⟩ := isReset file done
    exact ⟨_, file, after, fetched, done, refetched, isReset, isReset.remaining rfl 0 rfl⟩
  · obtain ⟨refused, -, -⟩ := reset_agrees_with_fetch .merged 7 (.server 2) _ _
      listOfText?_twoServers (by decide) (by decide)
    have unknown := (reset_eq_error_iff .merged 7 (.server 2) _ _ listOfText?_twoServers
      (.unknownServer 3)).mpr rfl
    exact (refused _ unknown).2

end Store

end TrafficMeter
