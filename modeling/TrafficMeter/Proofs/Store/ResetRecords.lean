import TrafficMeter.Proofs.Snapshot.CustomCounter
import TrafficMeter.Proofs.Store.StoredAggregate

set_option autoImplicit false

namespace TrafficMeter

/-- How a batch after a reset compares with the one before it. -/
structure Batch.IsReset (source : AggregateSource) (now : Int) (scope : Scope)
    (before after : Batch) : Prop where
  size_eq : after.size = before.size
  target : ∃ entry, after.snapshot? scope = some entry ∧ entry.custom = 0 ∧ entry.customTime = now
  every : scope = .all → ∀ entry ∈ after.toList, entry.custom = 0 ∧ entry.customTime = now
  others : ∀ position, scope = .server position → ∀ other, other ≠ position →
    after.snapshot? (.server other) = before.snapshot? (.server other)
  beside : after.toList.map (·.withoutCustom) = before.toList.map (·.withoutCustom)
  remaining : source = .merged → ∀ position, scope = .server position →
    after.aggregate.custom = ((before.servers.eraseIdx position).map (·.custom)).sum

namespace Store

variable (source : AggregateSource) (now : Int) (position : Nat) (records : List Snapshot)
  (batch : Batch)

theorem exists_batchOf (some_record : records ≠ []) :
    ∃ batch, batchOf source records = .ok batch := by
  cases records with
  | nil => exact absurd rfl some_record
  | cons first rest => cases source <;> exact ⟨_, rfl⟩

/-- A reset finds the record of the server that a fetch shows at the position. -/
theorem getElem?_recordIndex (made : batchOf source records = .ok batch) :
    records[recordIndex source position]? = batch.servers[position]? := by
  cases records with
  | nil => cases source <;> cases made
  | cons first rest => cases source <;> cases made <;> rfl

/-- A merge depends on what the records hold beside their custom counters for all but its own. -/
theorem batchOf_merged (changed : List Snapshot) (made : batchOf .merged records = .ok batch)
    (same : changed.map (·.withoutCustom) = records.map (·.withoutCustom)) :
    ∃ after, batchOf .merged changed = .ok after ∧ after.servers = changed ∧
      after.aggregate.withoutCustom = batch.aggregate.withoutCustom ∧
      after.aggregate.custom = (changed.map (·.custom)).sum ∧
      after.aggregate.customTime = Snapshot.earliestReset changed := by
  cases records with
  | nil => cases made
  | cons first rest =>
    cases made
    cases changed with
    | nil => cases same
    | cons first' rest' =>
      exact ⟨_, rfl, rfl, Snapshot.withoutCustom_merge_congr _ _ _ _ same, rfl, rfl⟩

theorem servers_of_merged (made : batchOf .merged records = .ok batch) :
    batch.servers = records := by
  cases records with
  | nil => cases made
  | cons first rest =>
    cases made
    rfl

/-- A reset of all records resets the aggregate, be it stored or merged. -/
theorem batchOf_reset_all (isSet : now ≠ 0) (made : batchOf source records = .ok batch) :
    ∃ after, batchOf source (records.map (·.resetCustom now)) = .ok after ∧
      after.servers = batch.servers.map (·.resetCustom now) ∧
      after.aggregate.withoutCustom = batch.aggregate.withoutCustom ∧
      after.aggregate.custom = 0 ∧ after.aggregate.customTime = now := by
  cases source with
  | provided =>
    cases records with
    | nil => cases made
    | cons first rest =>
      cases made
      exact ⟨_, rfl, rfl, rfl, rfl, rfl⟩
  | merged =>
    obtain ⟨after, made_after, servers_eq, beside, custom_eq, time_eq⟩ :=
      batchOf_merged records batch _ made (Snapshot.map_withoutCustom_reset now records)
    have servers := servers_of_merged records batch made
    have some_record : records.map (·.resetCustom now) ≠ [] := by
      intro none_left
      rw [List.map_eq_nil_iff] at none_left
      subst none_left
      cases made
    refine ⟨after, made_after, servers ▸ servers_eq, beside, ?_, ?_⟩
    · rw [custom_eq]
      exact Snapshot.sum_custom_of_all _ (List.forall_mem_map.mpr fun _ _ => rfl)
    · rw [time_eq]
      exact Snapshot.earliestReset_of_all now isSet _ some_record
        (List.forall_mem_map.mpr fun _ _ => rfl)

/-- A server's reset leaves the aggregate as it is but for its custom counter. -/
theorem batchOf_reset_server (server : Snapshot) (made : batchOf source records = .ok batch)
    (found : batch.servers[position]? = some server) :
    ∃ changed after, resetRecords source now (.server position) records = .ok changed ∧
      batchOf source changed = .ok after ∧
      after.servers = batch.servers.set position (server.resetCustom now) ∧
      after.aggregate.withoutCustom = batch.aggregate.withoutCustom ∧
      (source = .merged →
        after.aggregate.custom = ((batch.servers.eraseIdx position).map (·.custom)).sum) := by
  cases source with
  | provided =>
    cases records with
    | nil => cases made
    | cons first rest =>
      cases made
      exact ⟨_, _, resetRecords_provided now position first server rest found, rfl, rfl, rfl, nofun⟩
  | merged =>
    have servers := servers_of_merged records batch made
    rw [servers] at found ⊢
    obtain ⟨inside, -⟩ := List.getElem?_eq_some_iff.mp found
    obtain ⟨after, made_after, servers_eq, beside, custom_eq, -⟩ :=
      batchOf_merged records batch _ made
        (Snapshot.map_withoutCustom_set now records position server found)
    have reset : resetRecords .merged now (.server position) records =
        .ok (records.set position (server.resetCustom now)) := by
      simp only [resetRecords, recordIndex, found]
    refine ⟨_, after, reset, made_after, servers_eq, beside, fun _ => ?_⟩
    rw [custom_eq, sum_custom_reset now position server records inside, List.eraseIdx_map]

theorem resetRecords_unknown (made : batchOf source records = .ok batch)
    (unknown : batch.servers[position]? = none) :
    resetRecords source now (.server position) records =
      .error (.unknownServer (position + 1)) := by
  rw [← getElem?_recordIndex source position records batch made] at unknown
  simp only [resetRecords, unknown, Scope.index]

end Store

namespace Batch

variable (source : AggregateSource) (now : Int) (before after : Batch)

theorem isReset_all (servers_eq : after.servers = before.servers.map (·.resetCustom now))
    (beside : after.aggregate.withoutCustom = before.aggregate.withoutCustom)
    (custom_eq : after.aggregate.custom = 0) (time_eq : after.aggregate.customTime = now) :
    IsReset source now .all before after := {
  size_eq := by simp only [size, toList, List.length_cons, servers_eq, List.length_map]
  target := ⟨after.aggregate, rfl, custom_eq, time_eq⟩
  every := by
    rintro - entry member
    rw [toList, servers_eq] at member
    rcases List.mem_cons.mp member with rfl | member
    · exact ⟨custom_eq, time_eq⟩
    · obtain ⟨server, -, rfl⟩ := List.mem_map.mp member
      exact ⟨rfl, rfl⟩
  others := nofun
  beside := by
    rw [toList, toList, List.map_cons, List.map_cons, beside, servers_eq,
      Snapshot.map_withoutCustom_reset]
  remaining := nofun }

theorem isReset_server (position : Nat) (server : Snapshot)
    (found : before.servers[position]? = some server)
    (servers_eq : after.servers = before.servers.set position (server.resetCustom now))
    (beside : after.aggregate.withoutCustom = before.aggregate.withoutCustom)
    (remaining : source = .merged →
      after.aggregate.custom = ((before.servers.eraseIdx position).map (·.custom)).sum) :
    IsReset source now (.server position) before after := {
  size_eq := by simp only [size, toList, List.length_cons, servers_eq, List.length_set]
  target := by
    obtain ⟨inside, -⟩ := List.getElem?_eq_some_iff.mp found
    refine ⟨server.resetCustom now, ?_, rfl, rfl⟩
    rw [snapshot?, toList, servers_eq]
    exact List.getElem?_set_self inside
  every := nofun
  others := by
    intro _ same other differs
    cases same
    rw [snapshot?, snapshot?, toList, toList, servers_eq]
    exact List.getElem?_set_ne (Ne.symm differs)
  beside := by
    rw [toList, toList, List.map_cons, List.map_cons, beside, servers_eq,
      Snapshot.map_withoutCustom_set now _ position server found]
  remaining := by
    intro merged _ same
    cases same
    exact remaining merged }

end Batch

/-- A reset of records and a fetch of them mean the same snapshots. -/
theorem Store.resetRecords_isReset (source : AggregateSource) (now : Int) (scope : Scope)
    (records : List Snapshot) (batch : Batch) (isSet : now ≠ 0)
    (made : batchOf source records = .ok batch) :
    (batch.snapshot? scope = none →
      resetRecords source now scope records = .error (.unknownServer scope.index)) ∧
    (batch.snapshot? scope ≠ none →
      ∃ changed after, resetRecords source now scope records = .ok changed ∧
        batchOf source changed = .ok after ∧ Batch.IsReset source now scope batch after) := by
  cases scope with
  | all =>
    refine ⟨nofun, fun _ => ?_⟩
    obtain ⟨after, made_after, servers_eq, beside, custom_eq, time_eq⟩ :=
      batchOf_reset_all source now records batch isSet made
    exact ⟨_, after, rfl, made_after,
      Batch.isReset_all source now batch after servers_eq beside custom_eq time_eq⟩
  | server position =>
    refine ⟨resetRecords_unknown source now position records batch made, fun known => ?_⟩
    obtain ⟨server, found⟩ := Option.ne_none_iff_exists'.mp known
    obtain ⟨changed, after, reset, made_after, servers_eq, beside, remaining⟩ :=
      batchOf_reset_server source now position records batch server made found
    exact ⟨changed, after, reset, made_after,
      Batch.isReset_server source now batch after position server found servers_eq beside remaining⟩

end TrafficMeter
