import TrafficMeter.Proofs.Snapshot.AlignedDays
import TrafficMeter.Proofs.Snapshot.Recorded

set_option autoImplicit false

namespace TrafficMeter

namespace Snapshot

section Merge

variable (first : Snapshot) (others : List Snapshot)

theorem firstDay_merge :
    (merge first others).firstDay =
      ((withDays (first :: others)).map (·.firstDay)).min?.getD first.firstDay := by
  by_cases none_held : withDays (first :: others) = []
  · simp only [merge, none_held, alignDays_nil, Option.getD_none, List.map_nil, List.min?_nil]
  · obtain ⟨start, stop, hull, aligned⟩ := exists_alignDays _ none_held
    have earliest : ((withDays (first :: others)).map (·.firstDay)).min? = some start := by
      obtain ⟨⟨server, held, rfl⟩, least⟩ := hull.first_least
      refine List.min?_eq_some_iff.mpr ⟨List.mem_map_of_mem held, ?_⟩
      rw [List.forall_mem_map]
      exact fun other otherHeld => least ⟨other, otherHeld, rfl⟩
    rw [earliest, Option.getD_some]
    simp only [merge, aligned, Option.getD_some]

/-- The servers lined up by the merge decide every day of it. -/
theorem dayValue_merge (day : Int) :
    (merge first others).dayValue day =
      Size.sumSlots ((withDays (first :: others)).map (·.dayValue day)) := by
  by_cases none_held : withDays (first :: others) = []
  · simp only [merge, none_held, alignDays_nil, Option.getD_none, dayValue, Ring.valueAt_nil,
      List.map_nil, Size.sumSlots_nil]
  · obtain ⟨start, stop, hull, aligned⟩ := exists_alignDays _ none_held
    rw [← valueAt_sumOver hull day]
    simp only [merge, aligned, Option.getD_some, dayValue]

theorem daySlot_merge :
    (merge first others).daySlot =
      ((newestDay (first :: others)).map (· - (merge first others).firstDay)).getD (-1) := rfl

theorem newestDay_eq_none_iff (servers : List Snapshot) :
    newestDay servers = none ↔ ∀ server ∈ servers, ¬ server.isTrusted := by
  rw [newestDay, List.max?_eq_none_iff, List.map_eq_nil_iff, List.filter_eq_nil_iff]

theorem isGreatest_of_newestDay (servers : List Snapshot) (newest : Int)
    (found : newestDay servers = some newest) :
    IsGreatest {day | ∃ server ∈ servers, server.isTrusted ∧ server.today = day} newest := by
  have greatest := isGreatest_of_max? _ _ newest found
  simpa only [List.mem_filter, and_assoc] using greatest

theorem today_merge (newest : Int) (found : newestDay (first :: others) = some newest) :
    (merge first others).today = newest := by
  rw [today, daySlot_merge, found, Option.map_some, Option.getD_some]
  omega

/-- The merged clock is trusted if the merged buffer begins on a real day and no later than the day
that some trusted server writes to. -/
theorem isTrusted_merge_iff :
    (merge first others).isTrusted ↔ 0 < (merge first others).firstDay ∧
      ∃ server ∈ first :: others, server.isTrusted ∧
        (merge first others).firstDay ≤ server.today := by
  have slot := daySlot_merge first others
  cases newest_eq : newestDay (first :: others) with
  | none =>
    have untrusted := (newestDay_eq_none_iff _).mp newest_eq
    rw [newest_eq, Option.map_none, Option.getD_none] at slot
    constructor
    · intro claimed
      rw [isTrusted_iff, slot] at claimed
      omega
    · intro reached
      obtain ⟨_, server, listed, trusted, _⟩ := reached
      exact absurd trusted (untrusted server listed)
  | some newest =>
    obtain ⟨⟨writer, writerListed, writerTrusted, writer_today⟩, greatest⟩ :=
      isGreatest_of_newestDay _ _ newest_eq
    rw [newest_eq, Option.map_some, Option.getD_some] at slot
    rw [isTrusted_iff, slot]
    apply and_congr_right
    intro _
    constructor
    · intro reached
      exact ⟨writer, writerListed, writerTrusted, by omega⟩
    · intro reached
      obtain ⟨server, listed, trusted, before⟩ := reached
      have below : server.today ≤ newest := greatest ⟨server, listed, trusted, rfl⟩
      omega

/-- A server with days that can be placed on the calendar. -/
def HoldsDates (server : Snapshot) : Prop := server.isTrusted ∧ server.days ≠ []

instance (server : Snapshot) : Decidable server.HoldsDates := inferInstanceAs (Decidable (_ ∧ _))

theorem withDays_of_dated (servers : List Snapshot)
    (dated : ∃ server ∈ servers, server.HoldsDates) :
    withDays servers = (servers.filter isTrusted).filter (·.days ≠ []) := by
  have placed : (servers.filter (·.days ≠ [])).any isTrusted = true := by
    obtain ⟨server, listed, trusted, holding⟩ := dated
    exact List.any_eq_true.mpr
      ⟨server, List.mem_filter.mpr ⟨listed, decide_eq_true holding⟩, trusted⟩
  simp only [withDays, placed, ↓reduceIte, List.filter_filter, Bool.and_comm]

theorem withDays_of_undated (servers : List Snapshot)
    (undated : ∀ server ∈ servers, ¬ server.HoldsDates) :
    withDays servers = servers.filter (·.days ≠ []) := by
  have none_placed : (servers.filter (·.days ≠ [])).any isTrusted = false := by
    rw [List.any_eq_false]
    intro server held trusted
    obtain ⟨listed, holding⟩ := List.mem_filter.mp held
    exact undated server listed ⟨trusted, of_decide_eq_true holding⟩
  simp only [withDays, none_placed, Bool.false_eq_true, ↓reduceIte]

theorem mem_withDays_iff (servers : List Snapshot)
    (dated : ∃ server ∈ servers, server.HoldsDates) (server : Snapshot) :
    server ∈ withDays servers ↔ server ∈ servers ∧ server.HoldsDates := by
  rw [withDays_of_dated servers dated, List.mem_filter, List.mem_filter, decide_eq_true_eq,
    and_assoc, HoldsDates]

/-- Once a trusted server holds days, a merged day is the sum of what the trusted servers recorded
on it. -/
theorem dayValue_merge_of_dated (dated : ∃ server ∈ first :: others, server.HoldsDates)
    (day : Int) :
    (merge first others).dayValue day =
      Size.sumSlots (((first :: others).filter isTrusted).map (·.dayValue day)) := by
  rw [dayValue_merge, withDays_of_dated _ dated, sumSlots_holding]

theorem hull_merge_of_dated (dated : ∃ server ∈ first :: others, server.HoldsDates) :
    Hull (withDays (first :: others)) (merge first others).firstDay
      (merge first others).lastDay := by
  obtain ⟨server, listed, holdsDates⟩ := dated
  have held : server ∈ withDays (first :: others) :=
    (mem_withDays_iff _ ⟨server, listed, holdsDates⟩ server).mpr ⟨listed, holdsDates⟩
  obtain ⟨start, stop, hull, aligned⟩ := exists_alignDays _ (List.ne_nil_of_mem held)
  have lower : start ≤ server.firstDay := hull.first_least.2 ⟨server, held, rfl⟩
  have upper : server.lastDay ≤ stop := hull.last_greatest.2 ⟨server, held, rfl⟩
  have nonempty : 0 < server.days.length := List.length_pos_iff.mpr holdsDates.2
  have first_eq : (merge first others).firstDay = start := by
    simp only [merge, aligned, Option.getD_some]
  have last_eq : (merge first others).lastDay = stop := by
    simp only [lastDay, merge, aligned, Option.getD_some, length_sumOver]
    unfold lastDay at upper
    omega
  rw [first_eq, last_eq]
  exact hull

theorem isTrusted_merge_of_dated (dated : ∃ server ∈ first :: others, server.HoldsDates) :
    (merge first others).isTrusted := by
  obtain ⟨server, held, first_eq⟩ := (hull_merge_of_dated first others dated).first_least.1
  obtain ⟨listed, trusted, _⟩ := (mem_withDays_iff _ dated server).mp held
  have clock := server.isTrusted_iff.mp trusted
  rw [isTrusted_merge_iff, ← first_eq]
  refine ⟨clock.1, server, listed, trusted, ?_⟩
  unfold today
  omega

end Merge

/-- Day buffers are lined up by the calendar: the merge spans the trusted servers' buffers, its
clock shows the newest of their days, and each day of it is the sum of what the trusted servers
recorded on that day, absent only if none of them did. -/
theorem merge_by_date (servers : List Snapshot)
    (dated : ∃ server ∈ servers, server.HoldsDates) :
    ∃ merged, merge? servers = some merged ∧ merged.isTrusted ∧
      IsLeast {day | ∃ server ∈ servers, server.HoldsDates ∧ server.firstDay = day}
        merged.firstDay ∧
      IsGreatest {day | ∃ server ∈ servers, server.HoldsDates ∧ server.lastDay = day}
        merged.lastDay ∧
      IsGreatest {day | ∃ server ∈ servers, server.isTrusted ∧ server.today = day}
        merged.today ∧
      ∀ day, (merged.dayValue day = none ↔
          ∀ server ∈ servers, server.isTrusted → server.dayValue day = none) ∧
        (merged.dayValue day ≠ none → merged.dayValue day =
          some (Size.sumPresent ((servers.filter isTrusted).map (·.dayValue day)))) := by
  cases servers with
  | nil =>
    obtain ⟨server, listed, _⟩ := dated
    cases listed
  | cons first others =>
    have hull := hull_merge_of_dated first others dated
    have held_iff : ∀ measure : Snapshot → Int,
        {day | ∃ server ∈ withDays (first :: others), measure server = day} =
          {day | ∃ server ∈ first :: others, server.HoldsDates ∧ measure server = day} := by
      intro measure
      ext day
      simp only [mem_withDays_iff _ dated, Set.mem_ofPred_eq, and_assoc]
    have some_trusted : newestDay (first :: others) ≠ none := by
      obtain ⟨server, listed, trusted, _⟩ := dated
      intro absent
      exact (newestDay_eq_none_iff _).mp absent server listed trusted
    obtain ⟨newest, newest_eq⟩ := Option.ne_none_iff_exists'.mp some_trusted
    refine ⟨merge first others, rfl, isTrusted_merge_of_dated first others dated, ?_, ?_, ?_, ?_⟩
    · rw [← held_iff]
      exact hull.first_least
    · rw [← held_iff]
      exact hull.last_greatest
    · rw [today_merge first others newest newest_eq]
      exact isGreatest_of_newestDay _ newest newest_eq
    · intro day
      rw [dayValue_merge_of_dated first others dated day]
      refine ⟨?_, Size.sumSlots_of_present _⟩
      rw [Size.sumSlots_eq_none_iff, List.forall_mem_map]
      simp only [List.mem_filter, and_imp]

/-- Two trusted servers with a day between their buffers, and one whose clock is unset: that day
stays absent, and the third server adds nothing to the day that it claims to share. -/
theorem merge_by_date_gap :
    ∃ merged, merge? [ofDays 103 0 [some ⟨4, 4194304⟩],
        ofDays 100 1 [none, some ⟨2, 2097152⟩], ofDays 100 (-1) [some ⟨9, 9437184⟩]] =
          some merged ∧
      merged.isTrusted ∧ merged.dayValue 100 = none ∧ merged.dayValue 101 = some ⟨2, 2097152⟩ ∧
      merged.dayValue 102 = none := by
  obtain ⟨merged, found, trusted, _, _, _, byDay⟩ := merge_by_date
    [ofDays 103 0 [some ⟨4, 4194304⟩], ofDays 100 1 [none, some ⟨2, 2097152⟩],
      ofDays 100 (-1) [some ⟨9, 9437184⟩]] (by decide)
  refine ⟨merged, found, trusted, (byDay 100).1.mpr (by decide), ?_,
    (byDay 102).1.mpr (by decide)⟩
  rw [(byDay 101).2 (mt (byDay 101).1.mp (by decide))]
  decide

end Snapshot

end TrafficMeter
