import TrafficMeter.Proofs.Number.Extremes
import TrafficMeter.Proofs.Size.Sums
import TrafficMeter.Proofs.Snapshot.MergedDays

set_option autoImplicit false

namespace TrafficMeter

namespace Ring

theorem map_valueAt_range (ring : Ring) :
    (List.range ring.length).map (fun (slot : Nat) => ring.valueAt slot) = ring := by
  apply List.ext_getElem?
  intro slot
  rw [List.getElem?_map]
  by_cases inside : slot < ring.length
  · rw [List.getElem?_range inside, Option.map_some, valueAt_natCast,
      List.getElem?_eq_getElem inside, Option.join_some]
  · rw [List.getElem?_eq_none (by simpa using inside), List.getElem?_eq_none (by omega),
      Option.map_none]

/-- A stretch of slots that begins in front of a ring and ends behind it meets every recorded slot
once. -/
theorem sumPresent_stretch (ring : Ring) (before count : Nat)
    (covered : before + ring.length ≤ count) :
    Size.sumPresent ((List.range count).map fun (slot : Nat) =>
      ring.valueAt ((slot : Int) - before)) = Size.sumPresent ring := by
  obtain ⟨after, rfl⟩ := Nat.exists_eq_add_of_le covered
  rw [List.range_add, List.range_add, List.map_append, List.map_append, Size.sumPresent_append,
    Size.sumPresent_append, List.map_map, List.map_map]
  have front : Size.sumPresent ((List.range before).map fun (slot : Nat) =>
      ring.valueAt ((slot : Int) - before)) = 0 := by
    apply Size.sumPresent_of_blank
    rw [List.forall_mem_map]
    intro slot listed
    have early := List.mem_range.mp listed
    exact ring.valueAt_of_neg _ (by omega)
  have back : Size.sumPresent ((List.range after).map
      ((fun (slot : Nat) => ring.valueAt ((slot : Int) - before)) ∘
        (before + ring.length + ·))) = 0 := by
    apply Size.sumPresent_of_blank
    rw [List.forall_mem_map]
    intro slot _
    apply ring.valueAt_of_length_le
    dsimp only
    omega
  have middle : (List.range ring.length).map
      ((fun (slot : Nat) => ring.valueAt ((slot : Int) - before)) ∘ (before + ·)) = ring := by
    refine Eq.trans (List.map_congr_left ?_) ring.map_valueAt_range
    intro slot _
    have index_eq : ((before + slot : Nat) : Int) - before = (slot : Nat) := by omega
    rw [Function.comp_apply, index_eq]
  rw [front, back, middle, Size.zero_add, Size.add_zero]

/-- A merged ring holds what the rings hold together, though they may differ in length. -/
theorem sumPresent_merge (rings : List Ring) :
    Size.sumPresent (merge rings) = (rings.map Size.sumPresent).sum := by
  simp only [merge]
  rw [Size.sumPresent_map_sumSlots _ _ fun (slot : Nat) (ring : Ring) => ring.valueAt slot]
  congr 1
  apply List.map_congr_left
  intro ring listed
  have longest : ring.length ≤ (rings.map List.length).foldl max 0 := by
    rw [le_foldl_max_iff]
    exact .inr ⟨ring.length, List.mem_map_of_mem listed, Nat.le_refl _⟩
  have covering := ring.sumPresent_stretch 0 ((rings.map List.length).foldl max 0) (by omega)
  simpa only [Int.natCast_zero, Int.sub_zero] using covering

end Ring

namespace Snapshot

/-- Lining up buffers over a span that holds them all loses nothing of them. -/
theorem sumPresent_sumOver {servers : List Snapshot} {first last : Int}
    (hull : Hull servers first last) :
    Size.sumPresent (sumOver servers first last) =
      (servers.map fun server => Size.sumPresent server.days).sum := by
  rw [sumOver, Size.sumPresent_map_sumSlots _ _ fun (offset : Nat) (server : Snapshot) =>
    server.dayValue (first + offset)]
  congr 1
  apply List.map_congr_left
  intro server listed
  have lower : first ≤ server.firstDay := hull.first_least.2 ⟨server, listed, rfl⟩
  have upper : server.lastDay ≤ last := hull.last_greatest.2 ⟨server, listed, rfl⟩
  obtain ⟨before, before_eq⟩ := Int.eq_ofNat_of_zero_le (show 0 ≤ server.firstDay - first by omega)
  unfold lastDay at upper
  rw [← server.days.sumPresent_stretch before (last - first + 1).toNat (by omega)]
  congr 1
  apply List.map_congr_left
  intro offset _
  have index_eq : first + (offset : Int) - server.firstDay = (offset : Int) - before := by omega
  rw [dayValue, index_eq]

/-- A server without days adds nothing to a sum of day buffers. -/
theorem sum_days_holding (servers : List Snapshot) :
    ((servers.filter (·.days ≠ [])).map fun server => Size.sumPresent server.days).sum =
      (servers.map fun server => Size.sumPresent server.days).sum := by
  induction servers with
  | nil => rfl
  | cons server rest ih =>
    rw [List.map_cons, List.sum_cons, ← ih]
    by_cases empty : server.days = []
    · have blank : Size.sumPresent server.days = 0 := by
        rw [empty]
        rfl
      rw [List.filter_cons_of_neg (by simpa using empty), blank, Size.zero_add]
    · rw [List.filter_cons_of_pos (by simpa using empty), List.map_cons, List.sum_cons]

theorem sumPresent_days_merge (first : Snapshot) (others : List Snapshot)
    (dated : ∃ server ∈ first :: others, server.HoldsDates) :
    Size.sumPresent (merge first others).days =
      (((first :: others).filter isTrusted).map fun server => Size.sumPresent server.days).sum := by
  obtain ⟨server, listed, holdsDates⟩ := dated
  have held : server ∈ withDays (first :: others) :=
    (mem_withDays_iff _ ⟨server, listed, holdsDates⟩ server).mpr ⟨listed, holdsDates⟩
  obtain ⟨start, stop, hull, aligned⟩ := exists_alignDays _ (List.ne_nil_of_mem held)
  have days_eq : (merge first others).days = sumOver (withDays (first :: others)) start stop := by
    simp only [merge, aligned, Option.getD_some]
  rw [days_eq, sumPresent_sumOver hull, withDays_of_dated _ ⟨server, listed, holdsDates⟩,
    sum_days_holding]

/-- A merge keeps all volume and counts none of it twice: each of its rings holds what the servers'
rings hold together, and so do its counters. The day buffers that count are those of the trusted
servers, as soon as one of these holds days. -/
theorem merge_keeps_volume (servers : List Snapshot) (some_server : servers ≠ []) :
    ∃ merged, merge? servers = some merged ∧
      Size.sumPresent merged.seconds =
        (servers.map fun server => Size.sumPresent server.seconds).sum ∧
      Size.sumPresent merged.minutes =
        (servers.map fun server => Size.sumPresent server.minutes).sum ∧
      Size.sumPresent merged.hours =
        (servers.map fun server => Size.sumPresent server.hours).sum ∧
      merged.total = (servers.map (·.total)).sum ∧
      merged.custom = (servers.map (·.custom)).sum ∧
      ((∃ server ∈ servers, server.HoldsDates) →
        Size.sumPresent merged.days =
          ((servers.filter isTrusted).map fun server => Size.sumPresent server.days).sum) := by
  cases servers with
  | nil => exact absurd rfl some_server
  | cons first others =>
    have ring_sum (ring : Snapshot → Ring) :
        Size.sumPresent (Ring.merge ((first :: others).map ring)) =
          ((first :: others).map fun server => Size.sumPresent (ring server)).sum := by
      rw [Ring.sumPresent_merge, List.map_map]
      rfl
    exact ⟨merge first others, rfl, ring_sum (·.seconds), ring_sum (·.minutes), ring_sum (·.hours),
      rfl, rfl, sumPresent_days_merge first others⟩

/-- Two trusted servers whose hours differ in number and whose days leave a gap, and one whose clock
is unset. -/
def raggedServers : List Snapshot :=
  [{ ofDays 103 0 [some ⟨4, 4194304⟩] with hours := [some ⟨1, 1048576⟩, none, some ⟨0, 7⟩] },
    { ofDays 100 1 [none, some ⟨2, 2097152⟩] with hours := [some ⟨0, 4294967295⟩] },
    ofDays 100 (-1) [some ⟨9, 9437184⟩]]

/-- Their hours come to a megabyte and six bytes, where the low bytes wrap on the way, and their
days to the six megabytes of the trusted ones. -/
theorem merge_keeps_volume_ragged :
    ∃ merged, merge? raggedServers = some merged ∧ merged.hours.length = 3 ∧
      Size.sumPresent merged.hours = ⟨1, 1048582⟩ ∧ merged.days.length = 4 ∧
      Size.sumPresent merged.days = ⟨6, 6291456⟩ := by
  obtain ⟨merged, made, _, _, hours_eq, _, _, days_eq⟩ :=
    merge_keeps_volume raggedServers (by decide)
  refine ⟨merged, made, ?_, ?_, ?_, ?_⟩
  · cases made
    decide
  · rw [hours_eq]
    decide
  · cases made
    decide
  · rw [days_eq (by decide)]
    decide

end Snapshot

end TrafficMeter
