import TrafficMeter.Proofs.Chart.Span
import TrafficMeter.Proofs.Snapshot.Recorded

set_option autoImplicit false

namespace TrafficMeter

namespace Series

/-- The point for the day of a month that comes `offset` days after its first. -/
def datedPoint (snapshot : Snapshot) (month : Month) (offset : Nat) : Point where
  value := snapshot.dayValue (month.firstDay + offset)
  axisLabel := tickLabel (dayTick (offset + 1) month.length) (offset + 1)
  hoverLabel := (Date.ofClampedDay (month.firstDay + offset)).label

/-- A month's points by date alone, with no aggregate and no index shift. -/
def ofMonth (snapshot : Snapshot) (month : Month) : Series where
  points := (List.range month.length).map (datedPoint snapshot month) ++
    List.replicate (31 - month.length) Point.blank
  current := pointer (snapshot.today - month.firstDay) month.length

/-- Wherever the aggregate's buffer begins, each day is read from the same slot. -/
theorem ofDays_month (snapshot : Snapshot) (month : Month) (origin : Int)
    (known : yearInCalendar month.year) :
    ofDays snapshot ⟨.month month, origin⟩ (origin - snapshot.firstDay) =
      ofMonth snapshot month := by
  have slot_eq : ∀ offset : Nat,
      month.firstDay - origin + offset + (origin - snapshot.firstDay) =
        month.firstDay + offset - snapshot.firstDay := by
    intro offset
    omega
  have pointer_eq : snapshot.daySlot - (month.firstDay - origin) - (origin - snapshot.firstDay) =
      snapshot.today - month.firstDay := by
    simp only [Snapshot.today]
    omega
  have first_eq : (⟨.month month, origin⟩ : PeriodSpan).firstDate.epochDay = month.firstDay :=
    Month.epochDay_firstDate month known
  simp only [ofDays, PeriodSpan.startIndex_month month origin known,
    PeriodSpan.dayCount_month month origin known, first_eq, slot_eq, pointer_eq,
    List.length_map, List.length_range]
  rfl

/-- A series that shows a month: a point for each of its dates, and blank points up to 31. -/
structure ShowsMonth (series : Series) (snapshot : Snapshot) (month : Month) : Prop where
  length : series.points.length = 31
  dated : ∀ (offset : Nat) (inside : offset < month.length),
    (month.date offset inside).epochDay = month.firstDate.epochDay + offset ∧
      series.points[offset]? = some
        { value := snapshot.dayValue (month.firstDate.epochDay + offset)
          axisLabel := tickLabel (dayTick (offset + 1) month.length) (offset + 1)
          hoverLabel := (month.date offset inside).label }
  blank : ∀ offset : Nat, month.length ≤ offset → offset < 31 →
    series.points[offset]? = some Point.blank

theorem ofMonth_showsMonth (snapshot : Snapshot) (month : Month)
    (known : yearInCalendar month.year) : (ofMonth snapshot month).ShowsMonth snapshot month := by
  have width := month.length_le
  refine ⟨?_, ?_, ?_⟩
  · simp only [ofMonth, List.length_append, List.length_map, List.length_range,
      List.length_replicate]
    omega
  · intro offset inside
    rw [Month.epochDay_firstDate month known]
    refine ⟨Month.epochDay_date month offset inside, ?_⟩
    have in_days : offset < ((List.range month.length).map (datedPoint snapshot month)).length := by
      simpa using inside
    rw [ofMonth, List.getElem?_append_left in_days, List.getElem?_map,
      List.getElem?_range inside, Option.map_some, datedPoint,
      Date.ofClampedDay_firstDay_add month known offset inside]
  · intro offset beyond below
    have after_days :
        ((List.range month.length).map (datedPoint snapshot month)).length ≤ offset := by
      simpa using beyond
    rw [ofMonth, List.getElem?_append_right after_days, List.length_map, List.length_range,
      List.getElem?_replicate_of_lt (by omega)]

end Series

/-- A server that was added on the 10th of February 2020, a week after the aggregate's buffer
begins. -/
def lateServer : Snapshot := .ofDays 18302 2 [some ⟨1, 1048576⟩, none, some ⟨3, 3145728⟩]

end TrafficMeter
