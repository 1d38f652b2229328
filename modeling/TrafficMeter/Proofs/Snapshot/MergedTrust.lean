import TrafficMeter.Proofs.Snapshot.MergedDays
import TrafficMeter.Proofs.Snapshot.Recorded

set_option autoImplicit false

namespace TrafficMeter

namespace Snapshot

/-- A merge that can be trusted exactly if one of its servers can, and that then shows on each day
what the trusted servers recorded and nothing from the others. -/
structure KeepsTrust (servers : List Snapshot) (merged : Snapshot) : Prop where
  trusted_iff : merged.isTrusted ↔ ∃ server ∈ servers, server.isTrusted
  dated_only : merged.isTrusted → ∀ day, merged.dayValue day =
    Size.sumSlots ((servers.filter isTrusted).map (·.dayValue day))

/-- Where the merged buffer begins while no trusted server holds days: with the earliest buffer
there is, whatever its clock, or else with the first server. -/
def undatedOrigin (first : Snapshot) (others : List Snapshot) : Int :=
  (((first :: others).filter (·.days ≠ [])).map (·.firstDay)).min?.getD first.firstDay

section Trust

variable (first : Snapshot) (others : List Snapshot)

theorem keepsTrust_of_dated (dated : ∃ server ∈ first :: others, server.HoldsDates) :
    KeepsTrust (first :: others) (merge first others) := by
  have trusted := isTrusted_merge_of_dated first others dated
  refine ⟨⟨fun _ => ?_, fun _ => trusted⟩, fun _ => dayValue_merge_of_dated first others dated⟩
  obtain ⟨server, listed, serverTrusted, _⟩ := dated
  exact ⟨server, listed, serverTrusted⟩

theorem firstDay_merge_of_undated (undated : ∀ server ∈ first :: others, ¬ server.HoldsDates) :
    (merge first others).firstDay = undatedOrigin first others := by
  rw [firstDay_merge, withDays_of_undated _ undated, undatedOrigin]

/-- While no trusted server holds days, the merge shows every buffer there is. -/
theorem dayValue_merge_of_undated (undated : ∀ server ∈ first :: others, ¬ server.HoldsDates)
    (day : Int) :
    (merge first others).dayValue day =
      Size.sumSlots ((first :: others).map (·.dayValue day)) := by
  rw [dayValue_merge, withDays_of_undated _ undated, sumSlots_holding]

theorem sumSlots_trusted_of_undated (undated : ∀ server ∈ first :: others, ¬ server.HoldsDates)
    (day : Int) :
    Size.sumSlots (((first :: others).filter isTrusted).map (·.dayValue day)) = none := by
  rw [Size.sumSlots_eq_none_iff, List.forall_mem_map]
  intro server held
  obtain ⟨listed, trusted⟩ := List.mem_filter.mp held
  apply dayValue_of_days_eq_nil
  by_cases empty : server.days = []
  · exact empty
  · exact absurd ⟨trusted, empty⟩ (undated server listed)

/-- Without dates of a trusted server, a merge shows only what the trusted servers recorded if
nothing was recorded at all. -/
theorem dated_only_iff_of_undated (undated : ∀ server ∈ first :: others, ¬ server.HoldsDates) :
    (∀ day, (merge first others).dayValue day =
        Size.sumSlots (((first :: others).filter isTrusted).map (·.dayValue day))) ↔
      ∀ server ∈ first :: others, ∀ day, server.dayValue day = none := by
  simp only [dayValue_merge_of_undated first others undated,
    sumSlots_trusted_of_undated first others undated, Size.sumSlots_eq_none_iff,
    List.forall_mem_map]
  exact ⟨fun blank server listed day => blank day server listed,
    fun blank day server listed => blank server listed day⟩

theorem keepsTrust_of_untrusted (untrusted : ∀ server ∈ first :: others, ¬ server.isTrusted) :
    KeepsTrust (first :: others) (merge first others) := by
  have mergedUntrusted : ¬ (merge first others).isTrusted := by
    intro claimed
    obtain ⟨_, server, listed, trusted, _⟩ := (isTrusted_merge_iff first others).mp claimed
    exact untrusted server listed trusted
  refine ⟨⟨fun claimed => absurd claimed mergedUntrusted, ?_⟩,
    fun claimed => absurd claimed mergedUntrusted⟩
  intro someTrusted
  obtain ⟨server, listed, trusted⟩ := someTrusted
  exact absurd trusted (untrusted server listed)

/-- With trusted servers but no dates of theirs, the clock of the merge rests on where the other
buffers begin, and anything that these hold is out of place. -/
theorem keepsTrust_iff_of_undated (undated : ∀ server ∈ first :: others, ¬ server.HoldsDates)
    (someTrusted : ∃ server ∈ first :: others, server.isTrusted) :
    KeepsTrust (first :: others) (merge first others) ↔
      0 < undatedOrigin first others ∧
        (∃ server ∈ first :: others, server.isTrusted ∧
          undatedOrigin first others ≤ server.today) ∧
        ∀ server ∈ first :: others, ∀ day, server.dayValue day = none := by
  have trusted_iff := isTrusted_merge_iff first others
  rw [firstDay_merge_of_undated first others undated] at trusted_iff
  have dated_only_iff := dated_only_iff_of_undated first others undated
  constructor
  · intro kept
    have mergedTrusted := kept.trusted_iff.mpr someTrusted
    obtain ⟨positive, reached⟩ := trusted_iff.mp mergedTrusted
    exact ⟨positive, reached, dated_only_iff.mp (kept.dated_only mergedTrusted)⟩
  · intro allowed
    obtain ⟨positive, reached, blank⟩ := allowed
    have mergedTrusted := trusted_iff.mpr ⟨positive, reached⟩
    exact ⟨⟨fun _ => someTrusted, fun _ => mergedTrusted⟩, fun _ => dated_only_iff.mpr blank⟩

/-- A merge keeps trust unless some servers can be trusted but none of these holds days. Then the
first day comes from elsewhere, and trust is kept only if that day is a date, a trusted clock has
reached it, and no server recorded anything. -/
theorem merge_keepsTrust_iff :
    KeepsTrust (first :: others) (merge first others) ↔
      (∀ server ∈ first :: others, ¬ server.isTrusted) ∨
      (∃ server ∈ first :: others, server.HoldsDates) ∨
      (0 < undatedOrigin first others ∧
        (∃ server ∈ first :: others, server.isTrusted ∧
          undatedOrigin first others ≤ server.today) ∧
        ∀ server ∈ first :: others, ∀ day, server.dayValue day = none) := by
  by_cases dated : ∃ server ∈ first :: others, server.HoldsDates
  · exact iff_of_true (keepsTrust_of_dated first others dated) (Or.inr (Or.inl dated))
  · by_cases someTrusted : ∃ server ∈ first :: others, server.isTrusted
    · have undated : ∀ server ∈ first :: others, ¬ server.HoldsDates :=
        fun server listed holdsDates => dated ⟨server, listed, holdsDates⟩
      have notUntrusted : ¬ ∀ server ∈ first :: others, ¬ server.isTrusted := by
        intro untrusted
        obtain ⟨server, listed, trusted⟩ := someTrusted
        exact untrusted server listed trusted
      rw [keepsTrust_iff_of_undated first others undated someTrusted, or_iff_right notUntrusted,
        or_iff_right dated]
    · have untrusted : ∀ server ∈ first :: others, ¬ server.isTrusted :=
        fun server listed trusted => someTrusted ⟨server, listed, trusted⟩
      exact iff_of_true (keepsTrust_of_untrusted first others untrusted) (Or.inl untrusted)

/-- With every clock trusted the merge leaves no server out. -/
theorem dayValue_merge_of_trusted (trusted : ∀ server ∈ first :: others, server.isTrusted)
    (day : Int) :
    (merge first others).dayValue day = Size.sumSlots ((first :: others).map (·.dayValue day)) := by
  by_cases dated : ∃ server ∈ first :: others, server.HoldsDates
  · rw [dayValue_merge_of_dated first others dated, List.filter_eq_self.mpr trusted]
  · apply dayValue_merge_of_undated
    exact fun server listed holdsDates => dated ⟨server, listed, holdsDates⟩

theorem isTrusted_merge_of_trusted (trusted : ∀ server ∈ first :: others, server.isTrusted) :
    (merge first others).isTrusted := by
  by_cases dated : ∃ server ∈ first :: others, server.HoldsDates
  · exact isTrusted_merge_of_dated first others dated
  · -- No server holds days, so that the merge begins with the first server.
    have undated : ∀ server ∈ first :: others, ¬ server.HoldsDates :=
      fun server listed holdsDates => dated ⟨server, listed, holdsDates⟩
    have none_holding : (first :: others).filter (·.days ≠ []) = [] := by
      rw [List.filter_eq_nil_iff]
      intro server listed holding
      exact undated server listed ⟨trusted server listed, of_decide_eq_true holding⟩
    have origin : (merge first others).firstDay = first.firstDay := by
      rw [firstDay_merge_of_undated first others undated, undatedOrigin, none_holding]
      rfl
    have clock := first.isTrusted_iff.mp (trusted first List.mem_cons_self)
    rw [isTrusted_merge_iff, origin]
    refine ⟨clock.1, first, List.mem_cons_self, trusted first List.mem_cons_self, ?_⟩
    unfold today
    omega

end Trust

/-- A server whose clock is unset lends its five megabytes to a merge that looks trusted, or takes
the trust away, although the other server's clock is right. -/
theorem merge_unset_clock_breaks_trust :
    ¬ KeepsTrust [ofDays 100 0 [], ofDays 50 (-1) [some ⟨5, 5242880⟩]]
        (merge (ofDays 100 0 []) [ofDays 50 (-1) [some ⟨5, 5242880⟩]]) ∧
      ¬ KeepsTrust [ofDays 100 0 [], ofDays 0 3 [some ⟨5, 5242880⟩]]
        (merge (ofDays 100 0 []) [ofDays 0 3 [some ⟨5, 5242880⟩]]) := by
  constructor
  · intro kept
    have shown := kept.dated_only (by decide) 50
    revert shown
    decide
  · intro kept
    have trusted := kept.trusted_iff.mpr (by decide)
    revert trusted
    decide

end Snapshot

end TrafficMeter
