import TrafficMeter.Size.Basic

set_option autoImplicit false

namespace TrafficMeter

/-- Recorded volumes by slot; a slot without a record is absent. -/
abbrev Ring := List (Option Size)

namespace Ring

/-- Slots outside the ring are absent. -/
def valueAt (ring : Ring) (index : Int) : Option Size :=
  if index < 0 then none else ring[index.toNat]?.join

/-- The recorded slots with an index from `first` to `last`, in order. -/
def recorded (ring : Ring) (first last : Int) : List (Int × Size) :=
  ring.zipIdx.filterMap fun (slot, index) =>
    if first ≤ index ∧ index ≤ last then slot.map ((index : Int), ·) else none

/-- Sum of the recorded slots with an index from `first` to `last`. -/
def sumBetween (ring : Ring) (first last : Int) : Size :=
  ((ring.recorded first last).map Prod.snd).sum

@[simp] theorem valueAt_nil (index : Int) : valueAt [] index = none := by
  simp [valueAt]

@[simp] theorem valueAt_natCast (ring : Ring) (index : Nat) :
    ring.valueAt index = ring[index]?.join := by
  have nonnegative : ¬ ((index : Int) < 0) := by omega
  simp only [valueAt, nonnegative, ↓reduceIte, Int.toNat_natCast]

theorem valueAt_of_neg (ring : Ring) (index : Int) (negative : index < 0) :
    ring.valueAt index = none := by
  simp only [valueAt, negative, ↓reduceIte]

theorem valueAt_of_length_le (ring : Ring) (index : Int) (beyond : ring.length ≤ index) :
    ring.valueAt index = none := by
  have nonnegative : ¬ (index < 0) := by omega
  have outside : ring.length ≤ index.toNat := by omega
  simp only [valueAt, nonnegative, ↓reduceIte, List.getElem?_eq_none outside, Option.join_none]

/-- The recorded slots are the present values in the bounds, each under its index. -/
theorem mem_recorded_iff (ring : Ring) (first last index : Int) (size : Size) :
    (index, size) ∈ ring.recorded first last ↔
      (first ≤ index ∧ index ≤ last) ∧ ring.valueAt index = some size := by
  simp only [recorded, List.mem_filterMap, Prod.exists]
  constructor
  · rintro ⟨slot, position, inRing, found⟩
    rw [List.mk_mem_zipIdx_iff_getElem?] at inRing
    split at found
    · rename_i bounds
      obtain ⟨value, slot_eq, pair_eq⟩ := Option.map_eq_some_iff.1 found
      cases pair_eq
      refine ⟨bounds, ?_⟩
      rw [valueAt_natCast, inRing, slot_eq]
      rfl
    · cases found
  · rintro ⟨bounds, present⟩
    have nonnegative : 0 ≤ index := by
      by_cases negative : index < 0
      · rw [valueAt_of_neg ring index negative] at present
        cases present
      · omega
    obtain ⟨position, rfl⟩ := Int.eq_ofNat_of_zero_le nonnegative
    rw [valueAt_natCast] at present
    refine ⟨some size, position, ?_, ?_⟩
    · rw [List.mk_mem_zipIdx_iff_getElem?]
      cases slot_eq : ring[position]? with
      | none => simp [slot_eq] at present
      | some slot =>
        simp only [slot_eq, Option.join_some] at present
        rw [present]
    · simp only [bounds, and_self, ↓reduceIte, Option.map_some]

end Ring

/-- What one server recorded, as read at one moment. A slot pointer tells where the server writes
now; a negative day slot says that the server's clock could not be trusted. -/
structure Snapshot where
  serverId : Int
  /-- Epoch day of the first slot of `days`. -/
  firstDay : Int
  daySlot : Int
  hourSlot : Int
  minuteSlot : Int
  secondSlot : Int
  seconds : Ring
  minutes : Ring
  hours : Ring
  days : Ring
  total : Size
  /-- The counter that a reset sets back to nothing. -/
  custom : Size
  /-- Unix time of that reset; zero if there was none. -/
  customTime : Int
deriving DecidableEq, Repr

namespace Snapshot

/-- Epoch day of the newest slot of the day buffer. -/
def lastDay (snapshot : Snapshot) : Int := snapshot.firstDay + snapshot.days.length - 1

/-- What was recorded on an epoch day. -/
def dayValue (snapshot : Snapshot) (day : Int) : Option Size :=
  snapshot.days.valueAt (day - snapshot.firstDay)

theorem dayValue_of_lt_firstDay (snapshot : Snapshot) (day : Int)
    (before : day < snapshot.firstDay) : snapshot.dayValue day = none :=
  Ring.valueAt_of_neg _ _ (by omega)

theorem dayValue_of_lastDay_lt (snapshot : Snapshot) (day : Int)
    (after : snapshot.lastDay < day) : snapshot.dayValue day = none := by
  unfold lastDay at after
  exact Ring.valueAt_of_length_le _ _ (by omega)

theorem dayValue_of_days_eq_nil (snapshot : Snapshot) (day : Int) (empty : snapshot.days = []) :
    snapshot.dayValue day = none := by
  rw [dayValue, empty, Ring.valueAt_nil]

/-- What was recorded in the current day slot. -/
def todayValue (snapshot : Snapshot) : Option Size := snapshot.days.valueAt snapshot.daySlot

/-- Sets the custom counter back to nothing at a time. -/
def resetCustom (snapshot : Snapshot) (now : Int) : Snapshot :=
  { snapshot with custom := 0, customTime := now }

end Snapshot

end TrafficMeter
