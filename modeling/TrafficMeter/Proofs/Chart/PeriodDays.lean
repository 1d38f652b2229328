import TrafficMeter.Proofs.Chart.Span
import TrafficMeter.Proofs.Size.Slots
import TrafficMeter.Proofs.Snapshot.Recorded

set_option autoImplicit false

namespace TrafficMeter

/-- Number of days from the first date of the period to the last. -/
def Period.dayCount (period : Period) : Nat :=
  (period.lastDate.epochDay - period.firstDate.epochDay + 1).toNat

/-- What was recorded on each day of a period, by date alone. -/
def Snapshot.periodDays (snapshot : Snapshot) (period : Period) : List (Option Size) :=
  (List.range period.dayCount).map fun (offset : Nat) =>
    snapshot.dayValue (period.firstDate.epochDay + offset)

@[simp] theorem Snapshot.length_periodDays (snapshot : Snapshot) (period : Period) :
    (snapshot.periodDays period).length = period.dayCount := by
  rw [periodDays, List.length_map, List.length_range]

theorem Snapshot.getElem?_periodDays (snapshot : Snapshot) (period : Period) (offset : Nat)
    (inside : offset < period.dayCount) :
    (snapshot.periodDays period)[offset]? =
      some (snapshot.dayValue (period.firstDate.epochDay + offset)) := by
  rw [periodDays, List.getElem?_map, List.getElem?_range inside, Option.map_some]

namespace PeriodSpan

theorem dayCount_eq (period : Period) (origin : Int) :
    (⟨period, origin⟩ : PeriodSpan).dayCount = period.dayCount := by
  simp only [dayCount, startIndex, endIndex, firstDate, Period.dayCount]
  congr 1
  omega

theorem sumPresent_map_recorded (days : List (Int × Size)) :
    Size.sumPresent (days.map (some ·.2)) = (days.map Prod.snd).sum := by
  show ((days.map (some ·.2)).filterMap id).sum = _
  rw [List.filterMap_map]
  show (days.filterMap (some ∘ Prod.snd)).sum = _
  rw [List.filterMap_eq_map]

theorem total_eq_sumSlots_recorded (span : PeriodSpan) (snapshot : Snapshot) (dayShift : Int) :
    span.total snapshot dayShift =
      Size.sumSlots ((span.recorded snapshot dayShift).map (some ·.2)) := by
  unfold total
  cases span.recorded snapshot dayShift with
  | nil => rfl
  | cons day rest =>
    rw [Size.sumSlots_of_present, sumPresent_map_recorded]
    rw [ne_eq, Size.sumSlots_eq_none_iff]
    intro blank
    exact Option.some_ne_none _ (blank (some day.2) List.mem_cons_self)

section Shift

variable (snapshot : Snapshot) (period : Period) (origin : Int)

/-- Wherever the aggregate's buffer begins, the recorded days sum up to those of the period. -/
theorem sumSlots_recorded_shift :
    Size.sumSlots (((⟨period, origin⟩ : PeriodSpan).recorded snapshot
        (origin - snapshot.firstDay)).map (some ·.2)) =
      Size.sumSlots (snapshot.periodDays period) := by
  have length_eq : period.lastDate.epochDay - snapshot.firstDay -
      (period.firstDate.epochDay - snapshot.firstDay) + 1 =
        period.lastDate.epochDay - period.firstDate.epochDay + 1 := by omega
  rw [recorded_shift, Ring.recorded_eq_filterMap, Size.sumSlots_map_filterMap, length_eq,
    Snapshot.periodDays, Period.dayCount]
  congr 1
  apply List.map_congr_left
  intro offset _
  have index_eq : period.firstDate.epochDay - snapshot.firstDay + (offset : Int) =
      period.firstDate.epochDay + offset - snapshot.firstDay := by omega
  rw [index_eq, Snapshot.dayValue]
  cases snapshot.days.valueAt (period.firstDate.epochDay + offset - snapshot.firstDay) <;> rfl

theorem total_eq_sumSlots :
    (⟨period, origin⟩ : PeriodSpan).total snapshot (origin - snapshot.firstDay) =
      Size.sumSlots (snapshot.periodDays period) := by
  rw [total_eq_sumSlots_recorded, sumSlots_recorded_shift]

/-- The sum over a period's indices has nothing absent about it. -/
theorem sumBetween_eq_sumPresent :
    snapshot.days.sumBetween
        ((⟨period, origin⟩ : PeriodSpan).startIndex + (origin - snapshot.firstDay))
        ((⟨period, origin⟩ : PeriodSpan).endIndex + (origin - snapshot.firstDay)) =
      Size.sumPresent (snapshot.periodDays period) := by
  rw [← Size.getD_sumSlots, ← sumSlots_recorded_shift snapshot period origin, Size.getD_sumSlots,
    sumPresent_map_recorded]
  rfl

/-- The points of a chart by days are those of the period, and then blank ones. -/
theorem values_ofDays :
    (Series.ofDays snapshot ⟨period, origin⟩ (origin - snapshot.firstDay)).values =
      snapshot.periodDays period ++ List.replicate (31 - period.dayCount) none := by
  rw [Series.values, Series.ofDays, dayCount_eq, List.map_append, List.map_map,
    List.map_replicate, List.length_map, List.length_range, Snapshot.periodDays]
  congr 1
  apply List.map_congr_left
  intro offset _
  have index_eq : (⟨period, origin⟩ : PeriodSpan).startIndex + offset +
      (origin - snapshot.firstDay) = period.firstDate.epochDay + offset - snapshot.firstDay := by
    simp only [startIndex, firstDate]
    omega
  rw [Function.comp_apply, index_eq, Snapshot.dayValue]

end Shift

end PeriodSpan

/-- The month's volume in a scope is what its own buffer holds on the days of the aggregate's
current month. -/
theorem Batch.currentMonthTotal_of_trusted (batch : Batch) (scope : Scope)
    (snapshot : Snapshot) (trusted : batch.aggregate.isTrusted)
    (found : batch.snapshot? scope = some snapshot) :
    batch.currentMonthTotal scope = some (Size.sumPresent
      (snapshot.periodDays (.month (Date.ofClampedDay batch.aggregate.today).month))) := by
  have current : batch.aggregate.currentMonth? =
      some ⟨.month (Date.ofClampedDay batch.aggregate.today).month, batch.aggregate.firstDay⟩ := by
    simp only [Snapshot.currentMonth?, Snapshot.clock, trusted, ↓reduceIte]
  simp only [Batch.currentMonthTotal, current, found, Option.bind_eq_bind, Option.bind_some,
    Option.pure_def]
  exact congrArg some (PeriodSpan.sumBetween_eq_sumPresent snapshot _ _)

theorem Batch.currentMonthTotal_of_untrusted (batch : Batch) (scope : Scope)
    (untrusted : ¬ batch.aggregate.isTrusted) : batch.currentMonthTotal scope = none := by
  have undated : batch.aggregate.currentMonth? = none := by
    simp only [Snapshot.currentMonth?, Snapshot.clock, untrusted, Bool.false_eq_true, ↓reduceIte]
  rw [currentMonthTotal, undated]
  rfl

end TrafficMeter
