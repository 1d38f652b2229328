import TrafficMeter.Proofs.Number.Extremes
import TrafficMeter.Proofs.Size.Sums
import TrafficMeter.Proofs.Snapshot.AlignedDays
import TrafficMeter.Proofs.Snapshot.Recorded

set_option autoImplicit false

namespace TrafficMeter

theorem Ring.merge_perm (rings reordered : List Ring) (perm : rings.Perm reordered) :
    merge rings = merge reordered := by
  have length_eq : (rings.map List.length).foldl max 0 =
      (reordered.map List.length).foldl max 0 := by
    apply (perm.map List.length).foldl_eq'
    intro first _ second _ longest
    omega
  have slot_eq (index : Nat) : Size.sumSlots (rings.map (valueAt · index)) =
      Size.sumSlots (reordered.map (valueAt · index)) :=
    Size.sumSlots_perm _ _ (perm.map _)
  simp only [merge, length_eq, slot_eq]

namespace Snapshot

/-- Where the server writes now in the rings below a day. -/
def pointers (snapshot : Snapshot) : Int × Int × Int :=
  (snapshot.hourSlot, snapshot.minuteSlot, snapshot.secondSlot)

/-- All of a snapshot but those pointers. -/
def withoutPointers (snapshot : Snapshot) : Snapshot :=
  { snapshot with hourSlot := 0, minuteSlot := 0, secondSlot := 0 }

section Order

variable (servers reordered : List Snapshot) (perm : servers.Perm reordered)

include perm

theorem withDays_perm : (withDays servers).Perm (withDays reordered) := by
  have holding := perm.filter fun server => decide (server.days ≠ [])
  simp only [withDays, holding.any_eq]
  split
  · exact holding.filter isTrusted
  · exact holding

theorem alignDays_perm : alignDays servers = alignDays reordered := by
  have first_eq := min?_eq_of_perm _ _ (perm.map (·.firstDay))
  have last_eq := max?_eq_of_perm _ _ (perm.map lastDay)
  have day_eq (day : Int) : Size.sumSlots (servers.map (·.dayValue day)) =
      Size.sumSlots (reordered.map (·.dayValue day)) :=
    Size.sumSlots_perm _ _ (perm.map _)
  simp only [alignDays, first_eq, last_eq, day_eq]

theorem newestDay_perm : newestDay servers = newestDay reordered :=
  max?_eq_of_perm _ _ ((perm.filter isTrusted).map today)

theorem earliestReset_perm : earliestReset servers = earliestReset reordered := by
  have times := (perm.map (·.customTime)).filter fun time => decide (time ≠ 0)
  rw [earliestReset, earliestReset, min?_eq_of_perm _ _ times]

end Order

theorem withDays_ne_nil (servers : List Snapshot) (holding : ∃ server ∈ servers, server.days ≠ []) :
    withDays servers ≠ [] := by
  obtain ⟨server, listed, nonempty⟩ := holding
  have held : server ∈ servers.filter (·.days ≠ []) :=
    List.mem_filter.mpr ⟨listed, decide_eq_true nonempty⟩
  simp only [withDays]
  split
  · rename_i placed
    obtain ⟨dated, member, trusted⟩ := List.any_eq_true.mp placed
    exact List.ne_nil_of_mem (List.mem_filter.mpr ⟨member, trusted⟩)
  · exact List.ne_nil_of_mem held

/-- Without any days the merge would begin where its first server does, so that the order would
matter. -/
theorem withoutPointers_merge_perm (first first' : Snapshot) (others others' : List Snapshot)
    (holding : ∃ server ∈ first :: others, server.days ≠ [])
    (perm : (first :: others).Perm (first' :: others')) :
    (merge first others).withoutPointers = (merge first' others').withoutPointers := by
  obtain ⟨start, stop, -, aligned⟩ := exists_alignDays _ (withDays_ne_nil _ holding)
  have aligned' := aligned
  rw [alignDays_perm _ _ (withDays_perm _ _ perm)] at aligned'
  have ring_eq (ring : Snapshot → Ring) : Ring.merge ((first :: others).map ring) =
      Ring.merge ((first' :: others').map ring) :=
    Ring.merge_perm _ _ (perm.map ring)
  have sum_eq (counter : Snapshot → Size) : ((first :: others).map counter).sum =
      ((first' :: others').map counter).sum :=
    (perm.map counter).sum_eq
  simp only [withoutPointers, merge, aligned, aligned', Option.getD_some, newestDay_perm _ _ perm,
    earliestReset_perm _ _ perm, ring_eq, sum_eq]

/-- It does not matter in which order the servers are listed, except for the pointers into the rings
below a day: these are the first server's. -/
theorem merge_any_order (servers reordered : List Snapshot)
    (holding : ∃ server ∈ servers, server.days ≠ []) (perm : servers.Perm reordered) :
    ∃ merged merged', merge? servers = some merged ∧ merge? reordered = some merged' ∧
      merged.withoutPointers = merged'.withoutPointers ∧
      servers.head?.map pointers = some merged.pointers ∧
      reordered.head?.map pointers = some merged'.pointers := by
  cases servers with
  | nil =>
    obtain ⟨server, listed, _⟩ := holding
    cases listed
  | cons first others =>
    cases reordered with
    | nil => cases perm.length_eq
    | cons first' others' =>
      exact ⟨_, _, rfl, rfl, withoutPointers_merge_perm first first' others others' holding perm,
        rfl, rfl⟩

/-- A server without days, one whose clock is unset and one with a later buffer. -/
def mixedServers : List Snapshot :=
  [{ ofDays 100 0 [] with secondSlot := 7, seconds := [none, some ⟨0, 9⟩] },
    ofDays 50 (-1) [some ⟨9, 9437184⟩],
    { ofDays 103 1 [some ⟨4, 4194304⟩] with secondSlot := 8, seconds := [some ⟨0, 5⟩] }]

/-- Listed the other way round, they change the pointers of their merge and nothing else in it. -/
theorem merge_any_order_reversed :
    ∃ merged merged', merge? mixedServers = some merged ∧
      merge? mixedServers.reverse = some merged' ∧
      merged.withoutPointers = merged'.withoutPointers ∧ merged.pointers = (0, 0, 7) ∧
      merged'.pointers = (0, 0, 8) ∧ merged.firstDay = 103 ∧
      merged.seconds = [some ⟨0, 5⟩, some ⟨0, 9⟩] := by
  obtain ⟨merged, merged', made, made', same, pointers_eq, pointers_eq'⟩ :=
    merge_any_order mixedServers mixedServers.reverse (by decide) (List.reverse_perm _).symm
  refine ⟨merged, merged', made, made', same, (Option.some.inj pointers_eq).symm,
    (Option.some.inj pointers_eq').symm, ?_, ?_⟩
  · cases made
    decide
  · cases made
    decide

end Snapshot

end TrafficMeter
