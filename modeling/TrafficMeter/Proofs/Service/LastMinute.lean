import TrafficMeter.Proofs.Chart.Shape
import TrafficMeter.Proofs.Service.RefreshRuns
import TrafficMeter.Proofs.Store.Reset

set_option autoImplicit false

namespace TrafficMeter

namespace Series

/-- The last minute of a reading, beside the reading before it if there is one. -/
structure ShowsMinute (series : Series) (snapshot : Snapshot) (before : Option Snapshot) :
    Prop where
  length : series.values.length = 60
  /-- A second shows what the newest reading has for it. -/
  newest : ∀ slot : Nat, slot < 60 → before = none ∨ snapshot.secondSlot ≠ slot →
    series.values[slot]? = some snapshot.seconds[slot]?.join
  /-- Only the second that is being written shows the reading before. -/
  earlier : ∀ slot : Nat, slot < 60 → snapshot.secondSlot = slot →
    ∀ previous, before = some previous → series.values[slot]? = some previous.seconds[slot]?.join
  current : series.current =
    if 0 ≤ snapshot.secondSlot ∧ snapshot.secondSlot < 60 then
      some (if before.isSome then ((snapshot.secondSlot - 1) % 60).toNat
        else snapshot.secondSlot.toNat)
    else none

theorem exists_ringPoint (length : Nat) (unitLetter : Char) (spacing : Nat) (ring : Ring)
    (slot : Nat) (inside : slot < length) :
    ∃ point, (ringPoints length unitLetter spacing ring)[slot]? = some point ∧
      point.value = ring[slot]?.join := by
  rw [ringPoints, List.getElem?_map, List.getElem?_range inside]
  exact ⟨_, rfl, ring.valueAt_natCast slot⟩

section Seconds

variable (snapshot previous : Snapshot) (before : Option Snapshot)

/-- Without a reading before, or without a pointer, the ring is shown as it is. -/
theorem ofSeconds_of_plain (plain : before = none ∨ pointer snapshot.secondSlot 60 = none) :
    ofSeconds snapshot before =
      ⟨ringPoints 60 's' 10 snapshot.seconds, pointer snapshot.secondSlot 60⟩ := by
  unfold ofSeconds
  rcases plain with rfl | absent
  · split
    · contradiction
    · rfl
  · rw [absent]

theorem ofSeconds_of_pointer (written : Nat)
    (pointed : pointer snapshot.secondSlot 60 = some written) :
    ofSeconds snapshot (some previous) =
      ⟨(ringPoints 60 's' 10 snapshot.seconds).modify written
          ({ · with value := previous.seconds.valueAt written }),
        some (if written = 0 then 59 else written - 1)⟩ := by
  unfold ofSeconds
  rw [pointed]

theorem showsMinute_of_plain (plain : before = none ∨ pointer snapshot.secondSlot 60 = none) :
    (ofSeconds snapshot before).ShowsMinute snapshot before := by
  have shown := ofSeconds_of_plain snapshot before plain
  refine ⟨(fits_ofSeconds snapshot before).length_values, ?_, ?_, ?_⟩
  · intro slot inside _
    obtain ⟨point, point_eq, value_eq⟩ := exists_ringPoint 60 's' 10 snapshot.seconds slot inside
    rw [shown, values, List.getElem?_map, point_eq, Option.map_some, value_eq]
  · intro slot inside written previous some_before
    have pointed := (pointer_eq_some_iff _ 60 slot).mpr ⟨written, inside⟩
    rcases plain with none_before | absent
    · cases none_before.symm.trans some_before
    · cases absent.symm.trans pointed
  · rw [shown]
    rcases plain with rfl | absent
    · rfl
    · have outside := (pointer_eq_none_iff _ 60).mp absent
      rw [absent, if_neg (by omega)]

theorem showsMinute_of_pointer (written : Nat)
    (pointed : pointer snapshot.secondSlot 60 = some written) :
    (ofSeconds snapshot (some previous)).ShowsMinute snapshot (some previous) := by
  have shown := ofSeconds_of_pointer snapshot previous written pointed
  obtain ⟨slot_eq, within⟩ := (pointer_eq_some_iff _ 60 written).mp pointed
  refine ⟨(fits_ofSeconds snapshot (some previous)).length_values, ?_, ?_, ?_⟩
  · intro slot inside other
    have apart : written ≠ slot := by
      rintro rfl
      exact other.resolve_left (Option.some_ne_none _) slot_eq
    obtain ⟨point, point_eq, value_eq⟩ := exists_ringPoint 60 's' 10 snapshot.seconds slot inside
    rw [shown, values, List.getElem?_map]
    dsimp only
    rw [List.getElem?_modify_ne _ _ apart, point_eq, Option.map_some, value_eq]
  · intro slot inside same earlier some_before
    cases some_before
    have written_eq : written = slot := by omega
    obtain ⟨point, point_eq, _⟩ := exists_ringPoint 60 's' 10 snapshot.seconds slot inside
    rw [shown, values, List.getElem?_map, written_eq]
    dsimp only
    rw [List.getElem?_modify_eq, point_eq, ← Ring.valueAt_natCast]
    rfl
  · have bounds : 0 ≤ snapshot.secondSlot ∧ snapshot.secondSlot < 60 := by omega
    have moved : (if written = 0 then 59 else written - 1) =
        ((snapshot.secondSlot - 1) % 60).toNat := by
      split <;> omega
    rw [shown, if_pos bounds, moved]
    rfl

theorem ofSeconds_showsMinute : (ofSeconds snapshot before).ShowsMinute snapshot before := by
  cases before with
  | none => exact showsMinute_of_plain snapshot none (.inl rfl)
  | some previous =>
    cases pointed : pointer snapshot.secondSlot 60 with
    | none => exact showsMinute_of_plain snapshot (some previous) (.inr pointed)
    | some written => exact showsMinute_of_pointer snapshot previous written pointed

end Seconds

end Series

namespace Refresher

/-- The batches shown in the course of a run: the one read at first and those of the polls that
succeeded. -/
def batches (source : AggregateSource) (period : Nat) (file : Option String)
    (first : Option Batch) (events : List RefreshEvent) : List Batch :=
  first.toList ++ ((start period file first).moments source events).filterMap (·.published?)

theorem history_of_batches (source : AggregateSource) (period : Nat) (file : Option String)
    (first : Option Batch) (events : List RefreshEvent) :
    ((start period file first).run source events).poller.history =
      .ofBatches (batches source period file first events) := by
  apply history_run
  cases first <;> rfl

end Refresher

/-- The last minute shown after any run of polls, some of which fail: every second is that of the
newest batch, but for the second that is being written. That one shows the batch before, if the
server was in it, and the current point moves back with it, from the first second to the last. -/
theorem last_minute_smooths_newest_second (source : AggregateSource) (period : Nat)
    (file : Option String) (first : Option Batch) (events : List RefreshEvent)
    (earlier : List Batch) (newest : Batch) (scope : Scope) (snapshot : Snapshot)
    (shown : Refresher.batches source period file first events = earlier ++ [newest])
    (found : newest.snapshot? scope = some snapshot) :
    ∃ chart, ((Refresher.start period file first).run source events).poller.history.chart
        .lastMinute scope = .ok chart ∧
      chart.series.ShowsMinute snapshot (earlier.getLast?.bind (·.snapshot? scope)) := by
  have history_eq := Refresher.history_of_batches source period file first events
  rw [shown, History.ofBatches, List.getLast?_concat, List.dropLast_concat] at history_eq
  rw [history_eq]
  exact ⟨_, History.chart_of_found _ newest scope snapshot .lastMinute rfl found,
    Series.ofSeconds_showsMinute snapshot _⟩

/-- A reading of two seconds, of which the first is being written. -/
def wrappedReading (first second : Size) : Snapshot :=
  { Snapshot.ofDays 18262 (-1) [] with seconds := [some first, some second] }

/-- Between two readings a poll fails. The second being written is the first of its ring, so it
shows the older reading and the current point is the last one; a second beyond the ring is absent. -/
theorem last_minute_smooths_newest_second_wrapped :
    let older := wrappedReading ⟨3, 3145728⟩ ⟨4, 4194304⟩
    let newer := wrappedReading ⟨0, 5⟩ ⟨1, 1048576⟩
    let state := (Refresher.start 1000 (some (Snapshot.listText [newer])) (some ⟨older, []⟩)).run
      .provided [.turned (.ticked 0), .fileRead (some .missingFile), .pollEnded,
        .turned (.ticked 1000), .fileRead none, .pollEnded]
    ∃ chart, state.poller.history.chart .lastMinute .all = .ok chart ∧
      chart.series.values[0]? = some (some ⟨3, 3145728⟩) ∧
      chart.series.values[1]? = some (some ⟨1, 1048576⟩) ∧
      chart.series.values[2]? = some none ∧ chart.series.current = some 59 := by
  intro older newer state
  have decoded : Snapshot.listOfText? (Snapshot.listText [newer]) = some [newer] :=
    Snapshot.listOfText?_listText [newer] (by decide)
  have fetched : Store.fetch .provided (some (Snapshot.listText [newer])) = .ok ⟨newer, []⟩ :=
    Store.fetch_text .provided [newer] _ decoded
  have shown : Refresher.batches .provided 1000 (some (Snapshot.listText [newer]))
      (some ⟨older, []⟩) [.turned (.ticked 0), .fileRead (some .missingFile), .pollEnded,
        .turned (.ticked 1000), .fileRead none, .pollEnded] =
      [⟨older, []⟩] ++ [⟨newer, []⟩] := by
    simp only [Refresher.batches, Refresher.moments, Refresher.start, Refresher.step, Poller.step,
      PollerTurn.event, Poller.start, Refresher.read, fetched, RefreshMoment.published?]
    rfl
  obtain ⟨chart, charted, minute⟩ := last_minute_smooths_newest_second .provided 1000 _ _ _
    [⟨older, []⟩] ⟨newer, []⟩ .all newer shown rfl
  exact ⟨chart, charted, minute.earlier 0 (by decide) rfl older rfl,
    minute.newest 1 (by decide) (.inr (by decide)), minute.newest 2 (by decide) (.inr (by decide)),
    minute.current⟩

end TrafficMeter
