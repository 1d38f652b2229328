import TrafficMeter.Snapshot.Basic

set_option autoImplicit false

namespace TrafficMeter

namespace Ring

/-- Recorded slots come in the order of their indices, and no index comes twice. -/
theorem recorded_pairwise (ring : Ring) (first last : Int) :
    (ring.recorded first last).Pairwise (fun earlier later => earlier.1 < later.1) := by
  have positions : ring.zipIdx.Pairwise (fun earlier later => earlier.2 < later.2) := by
    rw [← List.pairwise_map (f := Prod.snd), List.zipIdx_map_snd]
    exact List.pairwise_lt_range'
  apply positions.filterMap
  intro earlier later ordered found foundEarlier found' foundLater
  dsimp only at foundEarlier foundLater
  split at foundEarlier
  · split at foundLater
    · obtain ⟨_, _, rfl⟩ := Option.map_eq_some_iff.1 foundEarlier
      obtain ⟨_, _, rfl⟩ := Option.map_eq_some_iff.1 foundLater
      dsimp only
      omega
    · cases foundLater
  · cases foundEarlier

theorem nodup_of_pairwise (slots : List (Int × Size))
    (sorted : slots.Pairwise (fun earlier later => earlier.1 < later.1)) : slots.Nodup := by
  apply sorted.imp
  intro earlier later ordered same
  rw [same] at ordered
  omega

/-- Only one list in the order of the indices has the recorded slots as its members. -/
theorem eq_recorded (ring : Ring) (first last : Int) (slots : List (Int × Size))
    (sorted : slots.Pairwise (fun earlier later => earlier.1 < later.1))
    (members : ∀ index size, (index, size) ∈ slots ↔
      (first ≤ index ∧ index ≤ last) ∧ ring.valueAt index = some size) :
    slots = ring.recorded first last := by
  have ordered := ring.recorded_pairwise first last
  have same : slots.Perm (ring.recorded first last) := by
    rw [List.perm_ext_iff_of_nodup (nodup_of_pairwise _ sorted) (nodup_of_pairwise _ ordered)]
    intro slot
    rw [members, mem_recorded_iff]
  refine same.eq_of_pairwise ?_ sorted ordered
  intro left right _ _ below above
  omega

/-- Bounds may be cut in two anywhere. -/
theorem recorded_split (ring : Ring) (first middle last : Int) (lower : first ≤ middle + 1)
    (upper : middle ≤ last) :
    ring.recorded first last =
      ring.recorded first middle ++ ring.recorded (middle + 1) last := by
  symm
  apply eq_recorded
  · rw [List.pairwise_append]
    refine ⟨ring.recorded_pairwise first middle, ring.recorded_pairwise (middle + 1) last, ?_⟩
    rintro ⟨earlier, _⟩ inFront ⟨later, _⟩ behind
    rw [mem_recorded_iff] at inFront behind
    omega
  · intro index size
    rw [List.mem_append, mem_recorded_iff, mem_recorded_iff, ← or_and_right]
    apply and_congr_left'
    omega

/-- The recorded slots are found by reading the slots in the bounds one by one. -/
theorem recorded_eq_filterMap (ring : Ring) (first last : Int) :
    ring.recorded first last =
      (List.range (last - first + 1).toNat).filterMap fun (offset : Nat) =>
        (ring.valueAt (first + offset)).map (first + offset, ·) := by
  symm
  apply eq_recorded
  · apply List.pairwise_lt_range.filterMap
    intro earlier later ordered slot foundEarlier next foundLater
    obtain ⟨_, _, rfl⟩ := Option.map_eq_some_iff.1 foundEarlier
    obtain ⟨_, _, rfl⟩ := Option.map_eq_some_iff.1 foundLater
    dsimp only
    omega
  · intro index size
    rw [List.mem_filterMap]
    constructor
    · intro found
      obtain ⟨offset, listed, found⟩ := found
      rw [List.mem_range] at listed
      obtain ⟨value, present, same⟩ := Option.map_eq_some_iff.1 found
      cases same
      exact ⟨by omega, present⟩
    · rintro ⟨bounds, present⟩
      refine ⟨(index - first).toNat, ?_, ?_⟩
      · rw [List.mem_range]
        omega
      · have index_eq : first + ((index - first).toNat : Int) = index := by omega
        rw [index_eq, present, Option.map_some]

end Ring

/-- A snapshot that holds days and nothing else. -/
def Snapshot.ofDays (firstDay daySlot : Int) (days : Ring) : Snapshot where
  serverId := 0
  firstDay := firstDay
  daySlot := daySlot
  hourSlot := 0
  minuteSlot := 0
  secondSlot := 0
  seconds := []
  minutes := []
  hours := []
  days := days
  total := 0
  custom := 0
  customTime := 0

end TrafficMeter
