import Mathlib.Data.List.Nodup
import TrafficMeter.Chart.Menu
import TrafficMeter.Proofs.Calendar.Periods
import TrafficMeter.Proofs.Period.Canonical
import TrafficMeter.Proofs.Snapshot.Recorded

set_option autoImplicit false

namespace TrafficMeter

/-- Where the values fall, stopping at the first one below a bound loses nothing. -/
theorem takeWhile_eq_filter {α : Type} (value : α → Int) (bound : Int) (items : List α)
    (falling : items.Pairwise fun earlier later => value later < value earlier) :
    items.takeWhile (bound ≤ value ·) = items.filter (bound ≤ value ·) := by
  induction items with
  | nil => rfl
  | cons item rest ih =>
    rw [List.pairwise_cons] at falling
    by_cases reached : bound ≤ value item
    · simp only [List.takeWhile_cons, List.filter_cons, reached, decide_true, ↓reduceIte,
        ih falling.2]
    · simp only [List.takeWhile_cons, List.filter_cons, reached, decide_false,
        Bool.false_eq_true, ↓reduceIte]
      symm
      apply List.filter_eq_nil_iff.mpr
      intro later listed laterReached
      have below := falling.1 later listed
      rw [decide_eq_true_eq] at laterReached
      omega

theorem Month.year_le_year {earlier later : Month} (ordered : earlier ≤ later) :
    earlier.year ≤ later.year := by
  change earlier.ordinal ≤ later.ordinal at ordered
  simp only [year]
  omega

/-- A month and the two before it. -/
def Month.lastThree (newest : Month) : List Month :=
  [newest, newest.previous, newest.previous.previous]

theorem Month.lastThree_descending (newest : Month) :
    newest.lastThree.Pairwise fun newer older => older.ordinal < newer.ordinal := by
  simp only [lastThree, previous, List.pairwise_cons, List.mem_cons, List.not_mem_nil, or_false,
    forall_eq_or_imp, forall_eq, false_implies, implies_true, List.Pairwise.nil, and_true]
  omega

theorem lastTwo_descending (newest : Int) :
    [newest, newest - 1].Pairwise fun newer older => older < newer := by
  simp only [List.pairwise_cons, List.mem_singleton, forall_eq, List.not_mem_nil, false_implies,
    implies_true, List.Pairwise.nil, and_true]
  omega

namespace Snapshot

variable (aggregate : Snapshot)

/-- The month in which the buffer begins. -/
def oldestMonth : Month := (Date.ofClampedDay aggregate.firstDay).month

/-- The month of the newest day. -/
def newestMonth : Month := (Date.ofClampedDay aggregate.today).month

/-- The last three months, without those before the buffer. -/
def quickMonths : List Month :=
  aggregate.newestMonth.lastThree.filter (aggregate.oldestMonth ≤ ·)

/-- The last two years, without those before the buffer. -/
def quickYears : List Int :=
  [aggregate.newestMonth.year, aggregate.newestMonth.year - 1].filter
    (aggregate.oldestMonth.year ≤ ·)

theorem quickMonths_descending :
    aggregate.quickMonths.Pairwise fun newer older => older.ordinal < newer.ordinal :=
  aggregate.newestMonth.lastThree_descending.filter _

theorem quickYears_descending :
    aggregate.quickYears.Pairwise fun newer older => older < newer :=
  (lastTwo_descending aggregate.newestMonth.year).filter _

theorem quickPeriods_of_untrusted (untrusted : ¬ aggregate.isTrusted) :
    aggregate.quickPeriods = [] := by
  simp only [quickPeriods, clock, untrusted, Bool.false_eq_true, ↓reduceIte]

/-- Months and years come newest first, so nothing is left out by stopping at the first one before
the buffer. -/
theorem quickPeriods_of_trusted (trusted : aggregate.isTrusted) :
    aggregate.quickPeriods =
      aggregate.quickMonths.map .month ++ aggregate.quickYears.map .year := by
  have months_eq : aggregate.newestMonth.lastThree.takeWhile (aggregate.oldestMonth ≤ ·) =
      aggregate.quickMonths :=
    takeWhile_eq_filter Month.ordinal aggregate.oldestMonth.ordinal _
      aggregate.newestMonth.lastThree_descending
  have years_eq : [aggregate.newestMonth.year, aggregate.newestMonth.year - 1].takeWhile
      (aggregate.oldestMonth.year ≤ ·) = aggregate.quickYears :=
    takeWhile_eq_filter (fun year => year) aggregate.oldestMonth.year _
      (lastTwo_descending aggregate.newestMonth.year)
  rw [← months_eq, ← years_eq]
  simp only [quickPeriods, clock, trusted, ↓reduceIte]
  rfl

section Trusted

variable (trusted : aggregate.isTrusted)

include trusted

theorem nodup_quickPeriods : aggregate.quickPeriods.Nodup := by
  rw [aggregate.quickPeriods_of_trusted trusted, List.nodup_append]
  refine ⟨?_, ?_, ?_⟩
  · apply List.Nodup.map fun _ _ same => Period.month.inj same
    apply aggregate.quickMonths_descending.imp
    intro newer older ordered same
    rw [same] at ordered
    omega
  · apply List.Nodup.map fun _ _ same => Period.year.inj same
    apply aggregate.quickYears_descending.imp
    intro newer older ordered same
    omega
  · intro period inMonths other inYears same
    obtain ⟨month, _, rfl⟩ := List.mem_map.mp inMonths
    obtain ⟨year, _, rfl⟩ := List.mem_map.mp inYears
    cases same

theorem oldestMonth_le_newestMonth : aggregate.oldestMonth ≤ aggregate.newestMonth := by
  obtain ⟨_, written⟩ := aggregate.isTrusted_iff.mp trusted
  apply Month.ofDay_le_ofDay
  simp only [today]
  omega

/-- A buffer whose days can be placed begins in 1970 at the earliest. -/
theorem le_year_oldestMonth : 1970 ≤ aggregate.oldestMonth.year := by
  obtain ⟨positive, _⟩ := aggregate.isTrusted_iff.mp trusted
  have begins : Month.ofDay 0 ≤ aggregate.oldestMonth := by
    apply Month.ofDay_le_ofDay
    simp only [Date.earliestDay, Date.latestDay]
    omega
  have first_year : (Month.ofDay 0).year = 1970 := by decide
  rw [← first_year]
  exact Month.year_le_year begins

theorem head?_quickMonths : aggregate.quickMonths.head? = some aggregate.newestMonth := by
  have reached := aggregate.oldestMonth_le_newestMonth trusted
  simp only [quickMonths, Month.lastThree, List.filter_cons, reached, decide_true, ↓reduceIte,
    List.head?_cons]

theorem head?_quickYears : aggregate.quickYears.head? = some aggregate.newestMonth.year := by
  have reached := Month.year_le_year (aggregate.oldestMonth_le_newestMonth trusted)
  simp only [quickYears, List.filter_cons, reached, decide_true, ↓reduceIte, List.head?_cons]

/-- The years of the periods offered: the last two, or the last one if the buffer begins in it. -/
theorem yearShown_of_mem_quickPeriods (period : Period)
    (offered : period ∈ aggregate.quickPeriods) :
    max aggregate.oldestMonth.year (aggregate.newestMonth.year - 1) ≤ period.yearShown ∧
      period.yearShown ≤ aggregate.newestMonth.year := by
  rw [aggregate.quickPeriods_of_trusted trusted, List.mem_append, List.mem_map, List.mem_map]
    at offered
  rcases offered with ⟨month, listed, rfl⟩ | ⟨year, listed, rfl⟩
  · obtain ⟨recent, reached⟩ := List.mem_filter.mp listed
    rw [decide_eq_true_eq] at reached
    have lower := Month.year_le_year reached
    have before := aggregate.newestMonth.previous_cases
    have beforeThat := aggregate.newestMonth.previous.previous_cases
    simp only [Month.lastThree, List.mem_cons, List.not_mem_nil, or_false] at recent
    rcases recent with rfl | rfl | rfl <;>
    · simp only [Period.yearShown]
      omega
  · obtain ⟨recent, reached⟩ := List.mem_filter.mp listed
    rw [decide_eq_true_eq] at reached
    simp only [List.mem_cons, List.not_mem_nil, or_false] at recent
    simp only [Period.yearShown]
    omega

/-- The first and the last of these years are offered as years. -/
theorem year_mem_quickPeriods (year : Int)
    (outermost : year = aggregate.newestMonth.year ∨
      year = max aggregate.oldestMonth.year (aggregate.newestMonth.year - 1)) :
    .year year ∈ aggregate.quickPeriods := by
  have reached := Month.year_le_year (aggregate.oldestMonth_le_newestMonth trusted)
  have listed : year ∈ aggregate.quickYears := by
    rw [quickYears, List.mem_filter, List.mem_cons, List.mem_singleton, decide_eq_true_eq]
    omega
  rw [aggregate.quickPeriods_of_trusted trusted]
  exact List.mem_append_right _ (List.mem_map_of_mem listed)

theorem yearShown_nonneg_of_mem_quickPeriods (period : Period)
    (offered : period ∈ aggregate.quickPeriods) : 0 ≤ period.yearShown := by
  have positive := aggregate.le_year_oldestMonth trusted
  have years := aggregate.yearShown_of_mem_quickPeriods trusted period offered
  omega

/-- The months before the newest one are the calendar's own. -/
theorem followedBy_newestMonth :
    aggregate.newestMonth.previous.lastDate.FollowedBy aggregate.newestMonth.firstDate ∧
      aggregate.newestMonth.previous.previous.lastDate.FollowedBy
        aggregate.newestMonth.previous.firstDate := by
  have lower := aggregate.le_year_oldestMonth trusted
  have reached := Month.year_le_year (aggregate.oldestMonth_le_newestMonth trusted)
  have known : yearInCalendar aggregate.newestMonth.year := Date.yearInCalendar_ofClampedDay _
  have earlier : yearInCalendar aggregate.newestMonth.previous.year ∧
      yearInCalendar aggregate.newestMonth.previous.previous.year := by
    have before := aggregate.newestMonth.previous_cases
    have beforeThat := aggregate.newestMonth.previous.previous_cases
    rw [yearInCalendar_iff] at known
    rw [yearInCalendar_iff, yearInCalendar_iff]
    omega
  constructor
  · have step := Date.followedBy_firstDate_next aggregate.newestMonth.previous earlier.1
    rw [Month.next_previous] at step
    exact step known
  · have step := Date.followedBy_firstDate_next aggregate.newestMonth.previous.previous earlier.2
    rw [Month.next_previous] at step
    exact step earlier.1

end Trusted

/-- The menu of an aggregate whose days can be placed offers the newest of its months and years,
newest first: three months and two years, as far as the buffer reaches back, and always the month
and the year of the newest day. An entry shows its own period, by what it is entered as and by what
it is called. Without a clock there is no menu. -/
theorem quickPeriods_are_newest (aggregate : Snapshot) :
    (aggregate.isTrusted →
      aggregate.quickPeriods =
          aggregate.quickMonths.map .month ++ aggregate.quickYears.map .year ∧
        aggregate.newestMonth.previous.lastDate.FollowedBy aggregate.newestMonth.firstDate ∧
        aggregate.newestMonth.previous.previous.lastDate.FollowedBy
          aggregate.newestMonth.previous.firstDate ∧
        aggregate.quickMonths.Pairwise (fun newer older => older.ordinal < newer.ordinal) ∧
        aggregate.quickYears.Pairwise (fun newer older => older < newer) ∧
        aggregate.quickMonths.head? = some aggregate.newestMonth ∧
        aggregate.quickYears.head? = some aggregate.newestMonth.year ∧
        (aggregate.quickPeriods.map Period.id).Nodup ∧
        ∀ period ∈ aggregate.quickPeriods,
          (∀ limits : YearLimits, limits.contains period.yearShown → period.yearShown ≤ 9999 →
            Period.parse limits period.id = .ok period) ∧
          ∀ other : Period, (other.id = period.id ↔ other = period) ∧
            (other.caption = period.caption ↔ other = period)) ∧
      (¬ aggregate.isTrusted → aggregate.quickPeriods = []) := by
  refine ⟨?_, aggregate.quickPeriods_of_untrusted⟩
  intro trusted
  obtain ⟨followed, followedBefore⟩ := aggregate.followedBy_newestMonth trusted
  refine ⟨aggregate.quickPeriods_of_trusted trusted, followed, followedBefore,
    aggregate.quickMonths_descending, aggregate.quickYears_descending,
    aggregate.head?_quickMonths trusted, aggregate.head?_quickYears trusted,
    (aggregate.nodup_quickPeriods trusted).map Period.id_injective, ?_⟩
  intro period offered
  refine ⟨?_, fun other => ⟨Period.id_injective.eq_iff, Period.caption_injective.eq_iff⟩⟩
  intro limits inside small
  have nonnegative := aggregate.yearShown_nonneg_of_mem_quickPeriods trusted period offered
  exact (period.parse_id_eq_ok_iff limits nonnegative).mpr ⟨small, inside⟩

/-- A buffer that begins in the middle of December 2020 has no third month to offer in January. -/
theorem quickPeriods_are_newest_new_year :
    (ofDays 18611 21 []).isTrusted ∧
      (ofDays 18611 21 []).quickPeriods = [.month (.ofNumber 2021 1), .month (.ofNumber 2020 12),
        .year 2021, .year 2020] ∧
      ((ofDays 18611 21 []).quickPeriods.map Period.id).Nodup := by
  have trusted : (ofDays 18611 21 []).isTrusted := by decide
  obtain ⟨periods_eq, _, _, _, _, _, _, distinct, _⟩ :=
    (quickPeriods_are_newest (ofDays 18611 21 [])).1 trusted
  exact ⟨trusted, periods_eq.trans (by decide), distinct⟩

/-- An entry of the menu is entered as a period like any other, and the menu takes no notice of the
years that are accepted there. So all of it can be chosen exactly if those years include the years
that the menu shows and none of them has more than four digits. -/
theorem quickPeriods_accepted_iff (limits : YearLimits) (aggregate : Snapshot)
    (trusted : aggregate.isTrusted) :
    (∀ period ∈ aggregate.quickPeriods, Period.parse limits period.id =
        if 9999 < period.yearShown then .error (.malformed period.id)
        else if limits.contains period.yearShown then .ok period
        else .error (.yearOutside period.yearShown limits)) ∧
      ((∀ period ∈ aggregate.quickPeriods, Period.parse limits period.id = .ok period) ↔
        limits.first ≤ max aggregate.oldestMonth.year (aggregate.newestMonth.year - 1) ∧
          aggregate.newestMonth.year ≤ limits.last ∧ aggregate.newestMonth.year ≤ 9999) := by
  have nonnegative := aggregate.yearShown_nonneg_of_mem_quickPeriods trusted
  have accepted_iff (period : Period) (offered : period ∈ aggregate.quickPeriods) :
      Period.parse limits period.id = .ok period ↔
        period.yearShown ≤ 9999 ∧ limits.first ≤ period.yearShown ∧
          period.yearShown ≤ limits.last := by
    rw [period.parse_id_eq_ok_iff limits (nonnegative period offered)]
    simp only [YearLimits.contains, Bool.and_eq_true, decide_eq_true_eq]
  refine ⟨fun period offered => period.parse_id limits (nonnegative period offered), ?_⟩
  constructor
  · intro accepted
    have newest := aggregate.year_mem_quickPeriods trusted _ (.inl rfl)
    have oldest := aggregate.year_mem_quickPeriods trusted _ (.inr rfl)
    have newestInside := (accepted_iff _ newest).mp (accepted _ newest)
    have oldestInside := (accepted_iff _ oldest).mp (accepted _ oldest)
    exact ⟨oldestInside.2.1, newestInside.2.2, newestInside.1⟩
  · intro inside period offered
    have years := aggregate.yearShown_of_mem_quickPeriods trusted period offered
    exact (accepted_iff period offered).mpr (by omega)

/-- In February 2020 the usual years include both years of the menu. -/
theorem quickPeriods_accepted_leap_year :
    (ofDays 18262 40 []).isTrusted ∧
      ∀ period ∈ (ofDays 18262 40 []).quickPeriods,
        Period.parse .standard period.id = .ok period := by
  have trusted : (ofDays 18262 40 []).isTrusted := by decide
  exact ⟨trusted, (quickPeriods_accepted_iff .standard _ trusted).2.mpr (by decide)⟩

/-- In January 2013, the first year that is usually accepted, a buffer that goes back to December
offers that month and its year, but neither can be entered. -/
theorem menu_offers_refused_periods :
    (ofDays 15675 40 []).isTrusted ∧
      (ofDays 15675 40 []).quickPeriods = [.month (.ofNumber 2013 1), .month (.ofNumber 2012 12),
        .year 2013, .year 2012] ∧
      Period.parse .standard (Period.month (.ofNumber 2012 12)).id =
        .error (.yearOutside 2012 .standard) ∧
      Period.parse .standard (Period.year 2012).id = .error (.yearOutside 2012 .standard) :=
  ⟨by decide, by decide, rfl, rfl⟩

end Snapshot

end TrafficMeter
