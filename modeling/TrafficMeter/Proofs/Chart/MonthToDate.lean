import TrafficMeter.Proofs.Chart.MonthDays
import TrafficMeter.Proofs.Chart.PeriodDays

set_option autoImplicit false

namespace TrafficMeter

namespace Snapshot

variable (snapshot : Snapshot)

/-- What was recorded from one day to another, day by day. -/
def daysBetween (first last : Int) : List (Option Size) :=
  (List.range (last - first + 1).toNat).map fun (offset : Nat) =>
    snapshot.dayValue (first + offset)

def volumeBetween (first last : Int) : Size := Size.sumPresent (snapshot.daysBetween first last)

theorem daysBetween_split (first middle last : Int) (lower : first ≤ middle + 1)
    (upper : middle ≤ last) :
    snapshot.daysBetween first last =
      snapshot.daysBetween first middle ++ snapshot.daysBetween (middle + 1) last := by
  have count_eq : (last - first + 1).toNat =
      (middle - first + 1).toNat + (last - (middle + 1) + 1).toNat := by omega
  rw [daysBetween, count_eq, List.range_add, List.map_append, List.map_map, daysBetween,
    daysBetween]
  congr 1
  apply List.map_congr_left
  intro offset _
  have day_eq : first + (((middle - first + 1).toNat + offset : Nat) : Int) =
      middle + 1 + offset := by omega
  rw [Function.comp_apply, day_eq]

theorem volumeBetween_split (first middle last : Int) (lower : first ≤ middle + 1)
    (upper : middle ≤ last) :
    snapshot.volumeBetween first last =
      snapshot.volumeBetween first middle + snapshot.volumeBetween (middle + 1) last := by
  rw [volumeBetween, snapshot.daysBetween_split first middle last lower upper,
    Size.sumPresent_append, volumeBetween, volumeBetween]

/-- Behind its newest slot a buffer holds nothing. -/
theorem volumeBetween_of_lastDay_lt (first last : Int)
    (beyond : first ≤ last → snapshot.lastDay < first) : snapshot.volumeBetween first last = 0 := by
  apply Size.sumPresent_of_blank
  rw [daysBetween, List.forall_mem_map]
  intro offset listed
  have inside := List.mem_range.mp listed
  have after := beyond (by omega)
  exact snapshot.dayValue_of_lastDay_lt _ (by omega)

/-- Volume of a month up to one of its dates, that date included. -/
def monthToDate (date : Date) : Size :=
  snapshot.volumeBetween date.month.firstDay date.epochDay

/-- Volume of the days of a month that come after one of its dates. -/
def restOfMonth (date : Date) : Size :=
  snapshot.volumeBetween (date.epochDay + 1) (date.month.firstDay + date.month.length - 1)

theorem sumPresent_periodDays_month (date : Date) (known : yearInCalendar date.month.year) :
    Size.sumPresent (snapshot.periodDays (.month date.month)) =
      snapshot.monthToDate date + snapshot.restOfMonth date := by
  have lower := date.one_le_day
  have upper := date.day_le_length
  have start : date.month.firstDay ≤ date.epochDay + 1 := by
    simp only [Date.epochDay]
    omega
  have stop : date.epochDay ≤ date.month.firstDay + date.month.length - 1 := by
    simp only [Date.epochDay]
    omega
  have days_eq : snapshot.periodDays (.month date.month) = snapshot.daysBetween
      date.month.firstDate.epochDay date.month.lastDate.epochDay := rfl
  rw [days_eq, Month.epochDay_firstDate _ known, Month.epochDay_lastDate _ known, monthToDate,
    restOfMonth, ← snapshot.volumeBetween_split _ _ _ start stop, volumeBetween]

end Snapshot

/-- The volume of the current month runs on to the end of the month. It stops at the aggregate's
newest day exactly where the days behind that come to nothing, as they do if the server's buffer
does not go on past it. -/
theorem month_total_stops_today_iff (batch : Batch) (scope : Scope) (snapshot : Snapshot)
    (trusted : batch.aggregate.isTrusted) (found : batch.snapshot? scope = some snapshot) :
    batch.todayDate.epochDay = min Date.latestDay batch.aggregate.today ∧
      batch.currentMonthTotal scope = some
        (snapshot.monthToDate batch.todayDate + snapshot.restOfMonth batch.todayDate) ∧
      (batch.currentMonthTotal scope = some (snapshot.monthToDate batch.todayDate) ↔
        (snapshot.restOfMonth batch.todayDate).lowBytes = 0 ∧
          ((snapshot.restOfMonth batch.todayDate).megabytes = 0 ∨
            (snapshot.monthToDate batch.todayDate).megabytes.toNat + 1 = UInt64.size)) ∧
      (snapshot.lastDay ≤ batch.aggregate.today →
        snapshot.restOfMonth batch.todayDate = 0) := by
  have known : yearInCalendar batch.todayDate.month.year := Date.yearInCalendar_ofClampedDay _
  have day_eq := batch.epochDay_todayDate trusted
  have total_eq : batch.currentMonthTotal scope = some
      (snapshot.monthToDate batch.todayDate + snapshot.restOfMonth batch.todayDate) := by
    rw [← snapshot.sumPresent_periodDays_month _ known]
    exact batch.currentMonthTotal_of_trusted scope snapshot trusted found
  refine ⟨day_eq, total_eq, ?_, ?_⟩
  · rw [total_eq, Option.some.injEq, Size.add_eq_left_iff]
  · intro ended
    have inside := Date.inCalendar_of_month batch.todayDate.month known
    apply snapshot.volumeBetween_of_lastDay_lt
    intro _
    omega

/-- The late server holds nothing after the newest day of its batch, the twelfth of February, and
the month up to that day has all of its four megabytes. -/
theorem month_total_stops_today_late_server :
    (⟨.ofDays 18295 9 [], [lateServer]⟩ : Batch).currentMonthTotal (.server 0) =
        some (lateServer.monthToDate (Date.ofClampedDay 18304)) ∧
      lateServer.monthToDate (Date.ofClampedDay 18304) = ⟨4, 4194304⟩ := by
  obtain ⟨_, _, stops_iff, ended⟩ := month_total_stops_today_iff
    ⟨.ofDays 18295 9 [], [lateServer]⟩ (.server 0) lateServer (by decide) rfl
  have nothing : lateServer.restOfMonth (Date.ofClampedDay 18304) = 0 := ended (by decide)
  refine ⟨stops_iff.mpr ?_, by decide⟩
  exact ⟨congrArg Size.lowBytes nothing, .inl (congrArg Size.megabytes nothing)⟩

/-- A server that is a day ahead of its batch: it holds data of the ninth and of the eleventh of
February 2020, where the aggregate's newest day is the tenth. -/
def aheadServer : Snapshot := .ofDays 18301 2 [some ⟨1, 1048576⟩, none, some ⟨2, 2097152⟩]

def aheadBatch : Batch := ⟨.ofDays 18293 9 [], [aheadServer]⟩

/-- The two megabytes of the eleventh count towards the month although they come after the newest
day. -/
theorem month_total_counts_days_ahead :
    aheadBatch.aggregate.isTrusted ∧ aheadBatch.aggregate.today = 18302 ∧
      aheadBatch.currentMonthTotal (.server 0) = some ⟨3, 3145728⟩ ∧
      aheadServer.monthToDate aheadBatch.todayDate = ⟨1, 1048576⟩ ∧
      aheadBatch.currentMonthTotal (.server 0) ≠
        some (aheadServer.monthToDate aheadBatch.todayDate) := by
  decide

end TrafficMeter
