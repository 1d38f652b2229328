import Mathlib.Order.Bounds.Basic
import TrafficMeter.Proofs.Size.Slots
import TrafficMeter.Snapshot.Merge

set_option autoImplicit false

namespace TrafficMeter

namespace Snapshot

/-- A server without days can be left out of a day's sum. -/
theorem sumSlots_holding (servers : List Snapshot) (day : Int) :
    Size.sumSlots ((servers.filter (·.days ≠ [])).map (·.dayValue day)) =
      Size.sumSlots (servers.map (·.dayValue day)) := by
  apply Size.sumSlots_map_filter
  intro server _ empty
  exact dayValue_of_days_eq_nil server day (by simpa using empty)

theorem isLeast_of_min? (servers : List Snapshot) (measure : Snapshot → Int) (least : Int)
    (found : (servers.map measure).min? = some least) :
    IsLeast {day | ∃ server ∈ servers, measure server = day} least := by
  obtain ⟨member, below⟩ := List.min?_eq_some_iff.mp found
  refine ⟨List.mem_map.mp member, ?_⟩
  intro day measured
  obtain ⟨server, listed, rfl⟩ := measured
  exact below _ (List.mem_map_of_mem listed)

theorem isGreatest_of_max? (servers : List Snapshot) (measure : Snapshot → Int) (greatest : Int)
    (found : (servers.map measure).max? = some greatest) :
    IsGreatest {day | ∃ server ∈ servers, measure server = day} greatest := by
  obtain ⟨member, above⟩ := List.max?_eq_some_iff.mp found
  refine ⟨List.mem_map.mp member, ?_⟩
  intro day measured
  obtain ⟨server, listed, rfl⟩ := measured
  exact above _ (List.mem_map_of_mem listed)

/-- The span over which day buffers are lined up: from the earliest first day to the latest last
day. -/
structure Hull (servers : List Snapshot) (first last : Int) : Prop where
  first_least : IsLeast {day | ∃ server ∈ servers, server.firstDay = day} first
  last_greatest : IsGreatest {day | ∃ server ∈ servers, server.lastDay = day} last

theorem Hull.dayValue_outside {servers : List Snapshot} {first last : Int}
    (hull : Hull servers first last) (day : Int) (outside : day < first ∨ last < day) :
    ∀ server ∈ servers, server.dayValue day = none := by
  intro server member
  have lower : first ≤ server.firstDay := hull.first_least.2 ⟨server, member, rfl⟩
  have upper : server.lastDay ≤ last := hull.last_greatest.2 ⟨server, member, rfl⟩
  rcases outside with before | after
  · exact dayValue_of_lt_firstDay server day (by omega)
  · exact dayValue_of_lastDay_lt server day (by omega)

/-- The day-wise sum over a span. -/
def sumOver (servers : List Snapshot) (first last : Int) : Ring :=
  (List.range (last - first + 1).toNat).map fun offset =>
    Size.sumSlots (servers.map (·.dayValue (first + offset)))

theorem length_sumOver (servers : List Snapshot) (first last : Int) :
    (sumOver servers first last).length = (last - first + 1).toNat := by
  simp only [sumOver, List.length_map, List.length_range]

theorem alignDays_nil : alignDays [] = none := rfl

/-- Any servers at all can be lined up. -/
theorem exists_alignDays (servers : List Snapshot) (some_server : servers ≠ []) :
    ∃ first last, Hull servers first last ∧
      alignDays servers = some (first, sumOver servers first last) := by
  have firsts : servers.map (·.firstDay) ≠ [] := by simpa using some_server
  have lasts : servers.map lastDay ≠ [] := by simpa using some_server
  obtain ⟨first, first_eq⟩ := Option.ne_none_iff_exists'.mp
    (mt List.min?_eq_none_iff.mp firsts)
  obtain ⟨last, last_eq⟩ := Option.ne_none_iff_exists'.mp
    (mt List.max?_eq_none_iff.mp lasts)
  refine ⟨first, last, ⟨isLeast_of_min? _ _ first first_eq, isGreatest_of_max? _ _ last last_eq⟩,
    ?_⟩
  simp only [alignDays, first_eq, last_eq]
  rfl

/-- Inside the span and outside of it, the lined-up buffer holds the sum of the servers' values for
the day. -/
theorem valueAt_sumOver {servers : List Snapshot} {first last : Int}
    (hull : Hull servers first last) (day : Int) :
    (sumOver servers first last).valueAt (day - first) =
      Size.sumSlots (servers.map (·.dayValue day)) := by
  by_cases inside : first ≤ day ∧ day ≤ last
  · obtain ⟨offset, offset_eq⟩ := Int.eq_ofNat_of_zero_le (show 0 ≤ day - first by omega)
    have below : offset < (last - first + 1).toNat := by omega
    have day_eq : first + (offset : Int) = day := by omega
    rw [offset_eq, Ring.valueAt_natCast, sumOver, List.getElem?_map, List.getElem?_range below,
      Option.map_some, Option.join_some, day_eq]
  · have blank : Size.sumSlots (servers.map (·.dayValue day)) = none := by
      rw [Size.sumSlots_eq_none_iff]
      intro slot member
      obtain ⟨server, held, rfl⟩ := List.mem_map.mp member
      exact hull.dayValue_outside day (by omega) server held
    rw [blank]
    by_cases before : day < first
    · exact Ring.valueAt_of_neg _ _ (by omega)
    · apply Ring.valueAt_of_length_le
      rw [length_sumOver]
      omega

end Snapshot

end TrafficMeter
