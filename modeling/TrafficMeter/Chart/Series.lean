import TrafficMeter.Chart.Span

set_option autoImplicit false

namespace TrafficMeter

/-- One point of a chart; points that carry no tick have an empty axis label. -/
structure Point where
  value : Option Size
  axisLabel : String
  hoverLabel : String
deriving DecidableEq, Repr

namespace Point

def blank : Point := ⟨none, "", ""⟩

end Point

/-- The points of a chart and the one that is being written now. -/
structure Series where
  points : List Point
  current : Option Nat
deriving DecidableEq, Repr

namespace Series

def empty : Series := ⟨[], none⟩

def values (series : Series) : List (Option Size) := series.points.map (·.value)

def tickLabel (shown : Bool) (label : Nat) : String :=
  if shown then Decimal.text label else ""

/-- A slot pointer that lies in a ring of the given length. -/
def pointer (slot : Int) (length : Nat) : Option Nat :=
  if 0 ≤ slot ∧ slot < length then some slot.toNat else none

theorem pointer_eq_some_iff (slot : Int) (length index : Nat) :
    pointer slot length = some index ↔ slot = index ∧ index < length := by
  unfold pointer
  split
  · rw [Option.some.injEq]
    omega
  · simp only [reduceCtorEq, false_iff]
    omega

theorem pointer_eq_none_iff (slot : Int) (length : Nat) :
    pointer slot length = none ↔ ¬ (0 ≤ slot ∧ slot < length) := by
  simp only [pointer, ite_eq_right_iff, reduceCtorEq, imp_false]

/-- One point for each slot, with a tick at every `spacing` slots and at the last one. -/
def ringPoints (length : Nat) (unitLetter : Char) (spacing : Nat) (ring : Ring) : List Point :=
  (List.range length).map fun (slot : Nat) =>
    { value := ring.valueAt slot
      axisLabel := tickLabel (slot % spacing = 0 || slot + 1 = length) slot
      hoverLabel := Decimal.text slot ++ unitLetter.toString }

/-- The last minute. The second being written is not yet full, so the reading before shows there
instead if it is known, and "now" moves back to the second before. -/
def ofSeconds (snapshot : Snapshot) (previous : Option Snapshot) : Series :=
  let points := ringPoints 60 's' 10 snapshot.seconds
  match pointer snapshot.secondSlot 60, previous with
  | some slot, some previous =>
    { points := points.modify slot ({ · with value := previous.seconds.valueAt slot })
      current := some (if slot = 0 then 59 else slot - 1) }
  | current, _ => ⟨points, current⟩

/-- The last hour. -/
def ofMinutes (snapshot : Snapshot) : Series :=
  ⟨ringPoints 60 'm' 10 snapshot.minutes, pointer snapshot.minuteSlot 60⟩

/-- The last day. -/
def ofHours (snapshot : Snapshot) : Series :=
  ⟨ringPoints 24 'h' 3 snapshot.hours, pointer snapshot.hourSlot 24⟩

/-- Every fifth day carries a tick, and so do the first day and a last day before the 30th. -/
def dayTick (day dayCount : Nat) : Bool :=
  day = 1 || day % 5 = 0 || (day < 30 && day = dayCount)

/-- One point for each day of a month; shorter months are filled up with blank points, so that all
months are equally wide. -/
def ofDays (snapshot : Snapshot) (span : PeriodSpan) (dayShift : Int) : Series :=
  let days := (List.range span.dayCount).map fun (offset : Nat) =>
    { value := snapshot.days.valueAt (span.startIndex + offset + dayShift)
      axisLabel := tickLabel (dayTick (offset + 1) span.dayCount) (offset + 1)
      hoverLabel := (Date.ofClampedDay (span.firstDate.epochDay + offset)).label : Point }
  { points := days ++ List.replicate (31 - days.length) Point.blank
    current := pointer (snapshot.daySlot - span.startIndex - dayShift) span.dayCount }

/-- Number of the month in which a recorded day of the span lies. -/
def monthOfIndex (span : PeriodSpan) (dayShift : Int) (index : Int) : Nat :=
  (Date.ofClampedDay (span.firstDate.epochDay + (index - dayShift - span.startIndex))).month.number

/-- One point for each month of a year. Months before the first and after the last recorded day
are absent, and those between are shown even if nothing was recorded in them. -/
def ofMonths (snapshot : Snapshot) (span : PeriodSpan) (dayShift : Int) : Series :=
  let recorded := (span.recorded snapshot dayShift).map fun (index, size) =>
    (monthOfIndex span dayShift index, index, size)
  let numbers := recorded.map (·.1)
  let first := numbers.head?.getD 13
  let last := numbers.foldl max 0
  { points := (List.range 12).map fun offset =>
      let number := offset + 1
      let sizes := (recorded.filter (·.1 = number)).map (·.2.2)
      { value := if first ≤ number ∧ number ≤ last then some sizes.sum else none
        axisLabel := String.ofList ((Month.nameOf number).toList.take 3)
        hoverLabel := Month.nameOf number ++ " " ++ Decimal.signedText span.firstDate.year }
    current := (recorded.find? (·.2.1 = snapshot.daySlot)).map (·.1 - 1) }

/-- The points of a source, read from one snapshot; the previous reading matters to seconds only. -/
def read (source : ChartSource) (snapshot : Snapshot) (previous : Option Snapshot)
    (dayShift : Int) : Series :=
  match source with
  | .seconds => ofSeconds snapshot previous
  | .minutes => ofMinutes snapshot
  | .hours => ofHours snapshot
  | .days span => ofDays snapshot span dayShift
  | .months span => ofMonths snapshot span dayShift
  | .noPeriodData => empty

end Series

end TrafficMeter
