import Mathlib.Data.List.MinMax
import TrafficMeter.Proofs.Size.Sums
import TrafficMeter.Snapshot.Merge

set_option autoImplicit false

namespace TrafficMeter.Snapshot

/-- All that a snapshot shows beside its custom counter. -/
def withoutCustom (snapshot : Snapshot) : Snapshot :=
  { snapshot with custom := 0, customTime := 0 }

@[simp] theorem withoutCustom_resetCustom (snapshot : Snapshot) (now : Int) :
    (snapshot.resetCustom now).withoutCustom = snapshot.withoutCustom := rfl

/-- What does not read the custom counters is the same for a list without them. -/
theorem map_withoutCustom {α : Type} (read : Snapshot → α)
    (blind : ∀ snapshot : Snapshot, read snapshot.withoutCustom = read snapshot)
    (servers : List Snapshot) : (servers.map withoutCustom).map read = servers.map read := by
  rw [List.map_map]
  exact List.map_congr_left fun server _ => blind server

theorem withDays_withoutCustom (servers : List Snapshot) :
    withDays (servers.map withoutCustom) = (withDays servers).map withoutCustom := by
  have holding : (servers.map withoutCustom).filter (·.days ≠ []) =
      (servers.filter (·.days ≠ [])).map withoutCustom := List.filter_map
  rw [withDays, withDays, holding, List.any_map, List.filter_map,
    apply_ite (List.map withoutCustom)]
  rfl

theorem alignDays_withoutCustom (servers : List Snapshot) :
    alignDays (servers.map withoutCustom) = alignDays servers := by
  have valued (day : Int) : (servers.map withoutCustom).map (·.dayValue day) =
      servers.map (·.dayValue day) := map_withoutCustom _ (fun _ => rfl) servers
  simp only [alignDays, valued, map_withoutCustom firstDay (fun _ => rfl),
    map_withoutCustom lastDay (fun _ => rfl)]

theorem newestDay_withoutCustom (servers : List Snapshot) :
    newestDay (servers.map withoutCustom) = newestDay servers := by
  rw [newestDay, newestDay, List.filter_map, map_withoutCustom today (fun _ => rfl)]
  rfl

/-- The custom counters of a merge depend on those of the servers, and nothing else in it does. -/
theorem withoutCustom_merge (first : Snapshot) (others : List Snapshot) :
    (merge first others).withoutCustom =
      (merge first.withoutCustom (others.map withoutCustom)).withoutCustom := by
  have days : alignDays (withDays (first.withoutCustom :: others.map withoutCustom)) =
      alignDays (withDays (first :: others)) := by
    rw [← List.map_cons, withDays_withoutCustom, alignDays_withoutCustom]
  have newest : newestDay (first.withoutCustom :: others.map withoutCustom) =
      newestDay (first :: others) := by
    rw [← List.map_cons, newestDay_withoutCustom]
  have column {α : Type} (read : Snapshot → α)
      (blind : ∀ snapshot : Snapshot, read snapshot.withoutCustom = read snapshot) :
      (first.withoutCustom :: others.map withoutCustom).map read = (first :: others).map read :=
    map_withoutCustom read blind (first :: others)
  simp only [merge, days, newest, column (·.seconds) (fun _ => rfl),
    column (·.minutes) (fun _ => rfl), column (·.hours) (fun _ => rfl),
    column (·.total) (fun _ => rfl)]
  rfl

theorem withoutCustom_merge_congr (first first' : Snapshot) (others others' : List Snapshot)
    (same : (first :: others).map withoutCustom = (first' :: others').map withoutCustom) :
    (merge first others).withoutCustom = (merge first' others').withoutCustom := by
  obtain ⟨first_eq, others_eq⟩ := List.cons.inj same
  rw [withoutCustom_merge first, withoutCustom_merge first', first_eq, others_eq]

theorem map_withoutCustom_reset (now : Int) (servers : List Snapshot) :
    (servers.map (·.resetCustom now)).map withoutCustom = servers.map withoutCustom := by
  rw [List.map_map]
  rfl

theorem map_withoutCustom_set (now : Int) (servers : List Snapshot) (position : Nat)
    (server : Snapshot) (found : servers[position]? = some server) :
    (servers.set position (server.resetCustom now)).map withoutCustom =
      servers.map withoutCustom := by
  obtain ⟨inside, rfl⟩ := List.getElem?_eq_some_iff.mp found
  rw [List.map_set, withoutCustom_resetCustom, ← List.map_set, List.set_getElem_self]

theorem sum_custom_of_all (servers : List Snapshot) (all : ∀ server ∈ servers, server.custom = 0) :
    (servers.map (·.custom)).sum = 0 := by
  apply List.sum_eq_zero
  exact List.forall_mem_map.mpr all

/-- After a reset of every server the merge was reset as well. -/
theorem earliestReset_of_all (now : Int) (isSet : now ≠ 0) (servers : List Snapshot)
    (some_server : servers ≠ []) (all : ∀ server ∈ servers, server.customTime = now) :
    earliestReset servers = now := by
  have times : servers.map (·.customTime) = List.replicate servers.length now :=
    List.eq_replicate_iff.mpr ⟨List.length_map _, List.forall_mem_map.mpr all⟩
  have counted : (List.replicate servers.length now).filter (· ≠ 0) =
      List.replicate servers.length now := by
    rw [List.filter_eq_self]
    intro time member
    rw [List.eq_of_mem_replicate member]
    exact decide_eq_true isSet
  rw [earliestReset, times, counted,
    List.min?_replicate_of_pos (List.length_pos_of_ne_nil some_server), Option.getD_some]

end TrafficMeter.Snapshot
