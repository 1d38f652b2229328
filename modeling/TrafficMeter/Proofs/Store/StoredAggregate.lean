import TrafficMeter.Proofs.Size.Removal
import TrafficMeter.Proofs.Size.Sums
import TrafficMeter.Proofs.Snapshot.Recorded
import TrafficMeter.Store.Basic

set_option autoImplicit false

namespace TrafficMeter

namespace Store

/-- The custom counter of a stored aggregate is the sum of its servers'. -/
def IsBalanced : List Snapshot → Prop
  | [] => False
  | aggregate :: servers => aggregate.custom = (servers.map (·.custom)).sum

theorem resetRecords_provided (now : Int) (position : Nat) (aggregate server : Snapshot)
    (servers : List Snapshot) (found : servers[position]? = some server) :
    resetRecords .provided now (.server position) (aggregate :: servers) =
      .ok ({ aggregate with custom := aggregate.custom.remove server.custom } ::
        servers.set position (server.resetCustom now)) := by
  simp only [resetRecords, recordIndex, List.getElem?_cons_succ, found, List.set_cons_succ,
    releaseFromAggregate]

/-- After a server's reset the counters sum up to those of the other servers. -/
theorem sum_custom_reset (now : Int) (position : Nat) (server : Snapshot)
    (servers : List Snapshot) (inside : position < servers.length) :
    ((servers.set position (server.resetCustom now)).map (·.custom)).sum =
      ((servers.map (·.custom)).eraseIdx position).sum := by
  rw [List.map_set]
  apply Size.sum_set_zero
  rw [List.length_map]
  exact inside

/-- A balanced aggregate stays so through a server's reset, but for one case: the other servers have
not one whole megabyte, and their low bytes wrap together with those of the server. The reset then
drops what they have. -/
theorem resetRecords_balanced_iff (now : Int) (position : Nat) (aggregate server : Snapshot)
    (servers : List Snapshot) (found : servers[position]? = some server)
    (balanced : IsBalanced (aggregate :: servers))
    (fits : (servers.map (·.custom.megabytes.toNat)).sum < UInt64.size) :
    let others := ((servers.map (·.custom)).eraseIdx position).sum
    ∃ records, resetRecords .provided now (.server position) (aggregate :: servers) = .ok records ∧
      (IsBalanced records ↔ ¬ (others.megabytes = 0 ∧
        UInt32.size ≤ server.custom.lowBytes.toNat + others.lowBytes.toNat)) := by
  intro others
  obtain ⟨inside, server_eq⟩ := List.getElem?_eq_some_iff.mp found
  have listed : position < (servers.map (·.custom)).length := by
    rw [List.length_map]
    exact inside
  have custom_eq : (servers.map (·.custom))[position] = server.custom := by
    rw [List.getElem_map, server_eq]
  have whole : aggregate.custom = server.custom + others := by
    have split := List.CommMonoid.add_sum_eraseIdx listed
    rw [custom_eq] at split
    exact balanced.trans split.symm
  have unsaturated : server.custom.megabytes.toNat + others.megabytes.toNat < UInt64.size := by
    have summed := Size.toNat_megabytes_eraseIdx (servers.map (·.custom)) position listed
    rw [List.map_map, custom_eq] at summed
    rw [summed fits]
    exact fits
  refine ⟨_, resetRecords_provided now position aggregate server servers found, ?_⟩
  rw [← Size.remove_add_eq_iff server.custom others unsaturated, ← whole, IsBalanced,
    sum_custom_reset now position server servers inside]

/-- A snapshot that holds a custom counter and nothing else. -/
def counting (custom : Size) : Snapshot := { Snapshot.ofDays 0 0 [] with custom }

/-- Two megabytes and one make three, and the one is left. -/
theorem resetRecords_balanced_small :
    ∃ records, resetRecords .provided 7 (.server 0)
        [counting ⟨3, 3145728⟩, counting ⟨2, 2097152⟩, counting ⟨1, 1048576⟩] = .ok records ∧
      IsBalanced records := by
  obtain ⟨records, reset, balanced_iff⟩ := resetRecords_balanced_iff 7 0
    (counting ⟨3, 3145728⟩) (counting ⟨2, 2097152⟩)
    [counting ⟨2, 2097152⟩, counting ⟨1, 1048576⟩] rfl (by unfold IsBalanced; decide) (by decide)
  exact ⟨records, reset, balanced_iff.mpr (by decide)⟩

/-- One server counted a byte less than four gigabytes and another one byte. When the first is
reset, the byte of the second is lost from the aggregate. -/
theorem reset_drops_other_server :
    IsBalanced [counting ⟨4095, 0⟩, counting ⟨4095, 4294967295⟩, counting ⟨0, 1⟩] ∧
      ∃ records, resetRecords .provided 7 (.server 0)
          [counting ⟨4095, 0⟩, counting ⟨4095, 4294967295⟩, counting ⟨0, 1⟩] = .ok records ∧
        ¬ IsBalanced records := by
  refine ⟨by unfold IsBalanced; decide, _, resetRecords_provided 7 0 _ _ _ rfl, ?_⟩
  unfold IsBalanced
  decide

end Store

end TrafficMeter
