import TrafficMeter.Proofs.Display.Actions

set_option autoImplicit false

namespace TrafficMeter

namespace Viewer

/-- The viewer after a range has been chosen by its name alone. -/
def choose (viewer : Viewer) (kind : RangeKind) : Viewer := (viewer.showRange (.ofKind kind)).1

/-- The name of the range that is shown leads back to that range: a named period is the pinned
one, and a bare month or year has no pinned period of its kind to turn into. -/
def Reopens (viewer : Viewer) : Prop :=
  reopen viewer.pinned (.ofKind viewer.range.kind) = viewer.range

theorem reopens_start (years : YearLimits) : (start years).Reopens := rfl

/-- Without a pinned period every range stands for itself. -/
theorem reopen_none (range : ChartRange) : reopen none range = range := by
  rcases range with _ | _ | _ | (_ | _) | (_ | _) <;> rfl

/-- A range has been pinned by the time it is shown, so its name finds it again. -/
theorem reopen_shown (pinned : Option Period) (range : ChartRange) :
    reopen ((reopen pinned range).period?.or pinned) (.ofKind (reopen pinned range).kind) =
      reopen pinned range := by
  rcases range with _ | _ | _ | (_ | month) | (_ | year)
  case month.none => rcases pinned with _ | (_ | _) <;> rfl
  case year.none => rcases pinned with _ | (_ | _) <;> rfl
  all_goals rfl

/-- Every accepted action either shows a range and pins its period, or leaves both alone. -/
theorem reopens_act (viewer : Viewer) (history : History) (action : ViewerAction) (after : Viewer)
    (now : Bool) (reopens : viewer.Reopens)
    (accepted : viewer.act history action = (after, .ok now)) : after.Reopens := by
  rcases viewer.act_cases history action after now accepted with
    ⟨_, range, shown⟩ | ⟨_, scope, shown⟩ | ⟨_, held⟩ | ⟨_, released⟩
  · cases shown
    exact reopen_shown viewer.pinned range
  · cases shown
    exact reopens
  · cases held
    exact reopens
  · cases released
    exact reopens

theorem reopens_run (years : YearLimits) (steps : List (History × ViewerAction)) :
    ((start years).run steps).Reopens :=
  run_induction Reopens _ (reopens_start years)
    (fun viewer history action after now => viewer.reopens_act history action after now) steps

/-- A name pins nothing new. -/
theorem period?_reopen_or (pinned : Option Period) (kind : RangeKind) :
    (reopen pinned (.ofKind kind)).period?.or pinned = pinned := by
  cases kind with
  | month => rcases pinned with _ | (_ | _) <;> rfl
  | year => rcases pinned with _ | (_ | _) <;> rfl
  | minute | hour | day => rfl

theorem pinned_choose (viewer : Viewer) (kind : RangeKind) :
    (viewer.choose kind).pinned = viewer.pinned :=
  period?_reopen_or viewer.pinned kind

/-- Looking around by names keeps the pinned period and the server. -/
theorem foldl_choose (viewer : Viewer) (kinds : List RangeKind) :
    (kinds.foldl choose viewer).pinned = viewer.pinned ∧
      (kinds.foldl choose viewer).scope = viewer.scope := by
  induction kinds generalizing viewer with
  | nil => exact ⟨rfl, rfl⟩
  | cons kind rest ih =>
    obtain ⟨samePinned, sameScope⟩ := ih (viewer.choose kind)
    exact ⟨samePinned.trans (viewer.pinned_choose kind), sameScope⟩

/-- However a viewer got there, the month or year it shows is the one it has pinned, and a bare
month or year has none of its kind. So any ranges may be looked at by their names in between: the
name of the first one brings back the same view. -/
theorem range_comes_back (years : YearLimits) (steps : List (History × ViewerAction)) :
    let viewer := (start years).run steps
    (∀ month, viewer.range = .month (some month) → viewer.pinned = some (.month month)) ∧
      (∀ year, viewer.range = .year (some year) → viewer.pinned = some (.year year)) ∧
      (viewer.range = .month none → ∀ month, viewer.pinned ≠ some (.month month)) ∧
      (viewer.range = .year none → ∀ year, viewer.pinned ≠ some (.year year)) ∧
      ∀ kinds : List RangeKind,
        let back := (kinds.foldl choose viewer).choose viewer.range.kind
        back.range = viewer.range ∧ back.pinned = viewer.pinned ∧
          ∀ (history : History) (zone : Zone),
            back.render history zone = viewer.render history zone := by
  intro viewer
  have reopens : viewer.Reopens := reopens_run years steps
  have back_to : ∀ range, viewer.range = range →
      reopen viewer.pinned (.ofKind range.kind) = range := by
    intro range shown
    rw [← shown]
    exact reopens
  refine ⟨?_, ?_, ?_, ?_, ?_⟩
  · intro month shown
    have opened := back_to _ shown
    rcases pinned_eq : viewer.pinned with _ | (pinned | pinned) <;> rw [pinned_eq] at opened <;>
      cases opened
    rfl
  · intro year shown
    have opened := back_to _ shown
    rcases pinned_eq : viewer.pinned with _ | (pinned | pinned) <;> rw [pinned_eq] at opened <;>
      cases opened
    rfl
  · intro shown month pinned
    have opened := back_to _ shown
    rw [pinned] at opened
    cases opened
  · intro shown year pinned
    have opened := back_to _ shown
    rw [pinned] at opened
    cases opened
  · intro kinds back
    obtain ⟨samePinned, sameScope⟩ := viewer.foldl_choose kinds
    have range_eq : back.range = viewer.range := by
      show reopen (kinds.foldl choose viewer).pinned (.ofKind viewer.range.kind) = viewer.range
      rw [samePinned]
      exact reopens
    have pinned_eq : back.pinned = viewer.pinned := by
      rw [← samePinned]
      exact pinned_choose _ _
    have scope_eq : back.scope = viewer.scope := sameScope
    refine ⟨range_eq, pinned_eq, ?_⟩
    intro history zone
    rw [render, render, range_eq, scope_eq]

/-- May 2020 is entered and stays pinned while the last hour and then the current year are looked at
by their names, so the name of a month brings it back. -/
theorem range_comes_back_may :
    let may : Month := .ofNumber 2020 5
    let viewer := (start .standard).run [(.empty, .enterPeriod "2020-05"), (.empty, .lock)]
    let around := [RangeKind.hour, .year].foldl choose viewer
    viewer.range = .month (some may) ∧ viewer.pinned = some (.month may) ∧
      around.range = .year none ∧ (around.choose .month).range = .month (some may) ∧
      (around.choose .month).pinned = some (.month may) := by
  intro may viewer around
  have entered : viewer.range = .month (some may) := by decide
  have looked : around.range = .year none := by decide
  obtain ⟨months, _, _, _, back⟩ := range_comes_back .standard
    [(.empty, .enterPeriod "2020-05"), (.empty, .lock)]
  have pinned := months may entered
  obtain ⟨range_eq, pinned_eq, _⟩ := back [.hour, .year]
  exact ⟨entered, pinned, looked, range_eq.trans entered, pinned_eq.trans pinned⟩

end Viewer

end TrafficMeter
