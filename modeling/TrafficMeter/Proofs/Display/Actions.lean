import Mathlib.Data.List.Induction
import TrafficMeter.Display.Viewer

set_option autoImplicit false

namespace TrafficMeter

/-- What an action comes to for the hold of the display: each one that may change the picture asks
for a redraw. -/
def ViewerAction.holdStep : ViewerAction → HoldStep
  | .lock => .lock
  | .unlock => .unlock
  | .showRange _ | .showServer _ | .enterPeriod _ | .askRedraw => .request

namespace Viewer

section Choices

variable (viewer : Viewer) (history : History)

/-- A server is looked for before anything is changed. -/
theorem act_showServer_eq (scope : Scope) :
    viewer.act history (.showServer scope) =
      match history.find scope with
      | .ok _ => { viewer with scope }.act history .askRedraw
      | .error fault => (viewer, .error (.lookup fault)) := by
  rw [act, perform, showServer, ViewerM.on_mapError, ViewerM.on_bind, ViewerM.on_liftM]
  cases history.find scope <;> rfl

/-- A period is read before anything is changed. -/
theorem act_enterPeriod_eq (input : String) :
    viewer.act history (.enterPeriod input) =
      match Period.parse viewer.years input with
      | .ok period => viewer.act history (.showRange (.ofPeriod period))
      | .error fault => (viewer, .error (.period fault)) := by
  rw [act, perform, enterPeriod, ViewerM.on_mapError]
  simp only [ViewerM.on_bind, ViewerM.on_get, ViewerM.on_liftM]
  cases Period.parse viewer.years input <;> rfl

theorem act_showServer (batch : Batch) (scope : Scope) (snapshot : Snapshot)
    (loaded : history.current = some batch) (found : batch.snapshot? scope = some snapshot) :
    viewer.act history (.showServer scope) = { viewer with scope }.act history .askRedraw := by
  rw [act_showServer_eq, history.find_of_found batch scope snapshot loaded found]

theorem act_showServer_of_refused (scope : Scope) (fault : LookupFault)
    (missing : history.find scope = .error fault) :
    viewer.act history (.showServer scope) = (viewer, .error (.lookup fault)) := by
  rw [act_showServer_eq, missing]

theorem act_enterPeriod (input : String) (period : Period)
    (parsed : Period.parse viewer.years input = .ok period) :
    viewer.act history (.enterPeriod input) =
      viewer.act history (.showRange (.ofPeriod period)) := by
  rw [act_enterPeriod_eq, parsed]

theorem act_enterPeriod_of_refused (input : String) (fault : PeriodFault)
    (refused : Period.parse viewer.years input = .error fault) :
    viewer.act history (.enterPeriod input) = (viewer, .error (.period fault)) := by
  rw [act_enterPeriod_eq, refused]

/-- Only a period that cannot be entered and a server that is not found are refused, and neither
leaves a trace in the viewer. -/
theorem act_eq_error (action : ViewerAction) (after : Viewer) (reason : ActionFault)
    (refused : viewer.act history action = (after, .error reason)) :
    after = viewer ∧
      ((∃ input fault, action = .enterPeriod input ∧
          Period.parse viewer.years input = .error fault ∧ reason = .period fault) ∨
        ∃ scope fault, action = .showServer scope ∧ history.find scope = .error fault ∧
          reason = .lookup fault) := by
  cases action with
  | showRange range | lock | unlock | askRedraw => cases refused
  | showServer scope =>
    rw [act_showServer_eq] at refused
    cases missing : history.find scope with
    | error fault =>
      rw [missing] at refused
      cases refused
      exact ⟨rfl, .inr ⟨scope, fault, rfl, missing, rfl⟩⟩
    | ok found =>
      rw [missing] at refused
      cases refused
  | enterPeriod input =>
    rw [act_enterPeriod_eq] at refused
    cases parsed : Period.parse viewer.years input with
    | error fault =>
      rw [parsed] at refused
      cases refused
      exact ⟨rfl, .inl ⟨input, fault, rfl, parsed, rfl⟩⟩
    | ok period =>
      rw [parsed] at refused
      cases refused

end Choices

/-- All that an accepted action can do: show a range or a server and ask for a redraw, hold the
display or let it go, or ask for a redraw and nothing else. -/
theorem act_cases (viewer : Viewer) (history : History) (action : ViewerAction) (after : Viewer)
    (now : Bool) (accepted : viewer.act history action = (after, .ok now)) :
    (action.holdStep = .request ∧ ∃ range, (after, now) = viewer.showRange range) ∨
      (action.holdStep = .request ∧ ∃ scope, (after, now) = { viewer with scope }.askRedraw) ∨
      (action = .lock ∧ (after, now) = (viewer.lock, false)) ∨
      (action = .unlock ∧ (after, now) = viewer.unlock) := by
  cases action with
  | showRange range =>
    cases accepted
    exact .inl ⟨rfl, range, rfl⟩
  | showServer scope =>
    rw [act_showServer_eq] at accepted
    cases found : history.find scope with
    | error fault =>
      rw [found] at accepted
      cases accepted
    | ok pair =>
      rw [found] at accepted
      cases accepted
      exact .inr (.inl ⟨rfl, scope, rfl⟩)
  | enterPeriod input =>
    rw [act_enterPeriod_eq] at accepted
    cases parsed : Period.parse viewer.years input with
    | error fault =>
      rw [parsed] at accepted
      cases accepted
    | ok period =>
      rw [parsed] at accepted
      cases accepted
      exact .inl ⟨rfl, .ofPeriod period, rfl⟩
  | lock =>
    cases accepted
    exact .inr (.inr (.inl ⟨rfl, rfl⟩))
  | unlock =>
    cases accepted
    exact .inr (.inr (.inr ⟨rfl, rfl⟩))
  | askRedraw =>
    cases accepted
    exact .inr (.inl ⟨rfl, viewer.scope, rfl⟩)

section Accepted

variable (viewer : Viewer) (history : History) (action : ViewerAction) (after : Viewer)
  (now : Bool) (accepted : viewer.act history action = (after, .ok now))

include accepted

/-- An accepted action moves the hold by its own step, and a redraw is due when that step says
so. -/
theorem hold_act : (after.hold, now) = viewer.hold.step action.holdStep := by
  rcases viewer.act_cases history action after now accepted with
    ⟨asks, range, shown⟩ | ⟨asks, scope, shown⟩ | ⟨rfl, held⟩ | ⟨rfl, released⟩
  · cases shown
    rw [asks]
    rfl
  · cases shown
    rw [asks]
    rfl
  · cases held
    rfl
  · cases released
    rfl

/-- Only an action that asks for a redraw changes what is looked at. -/
theorem selection_act (quiet : action.holdStep ≠ .request) :
    after.range = viewer.range ∧ after.scope = viewer.scope := by
  rcases viewer.act_cases history action after now accepted with
    ⟨asks, _⟩ | ⟨asks, _⟩ | ⟨_, held⟩ | ⟨_, released⟩
  · exact absurd asks quiet
  · exact absurd asks quiet
  · cases held
    exact ⟨rfl, rfl⟩
  · cases released
    exact ⟨rfl, rfl⟩

theorem years_act : after.years = viewer.years := by
  rcases viewer.act_cases history action after now accepted with
    ⟨_, _, changed⟩ | ⟨_, _, changed⟩ | ⟨_, changed⟩ | ⟨_, changed⟩ <;>
  · cases changed
    rfl

end Accepted

/-- The viewer after several actions, each with the batches known at its time. -/
def run (viewer : Viewer) (steps : List (History × ViewerAction)) : Viewer :=
  steps.foldl (fun viewer step => (viewer.act step.1 step.2).1) viewer

theorem run_append_singleton (viewer : Viewer) (steps : List (History × ViewerAction))
    (step : History × ViewerAction) :
    viewer.run (steps ++ [step]) = ((viewer.run steps).act step.1 step.2).1 := by
  rw [run, List.foldl_append, List.foldl_cons, List.foldl_nil, run]

/-- What holds at first and is kept by every accepted action holds after all actions. -/
theorem run_induction (invariant : Viewer → Prop) (viewer : Viewer) (first : invariant viewer)
    (kept : ∀ viewer history action after now, invariant viewer →
      viewer.act history action = (after, .ok now) → invariant after)
    (steps : List (History × ViewerAction)) : invariant (viewer.run steps) := by
  induction steps using List.reverseRecOn with
  | nil => exact first
  | append_singleton steps step ih =>
    rw [run_append_singleton]
    rcases acted : (viewer.run steps).act step.1 step.2 with ⟨after, reason | now⟩
    · -- a refused action keeps everything, as it leaves the viewer as it is
      obtain ⟨rfl, _⟩ := act_eq_error _ step.1 step.2 after reason acted
      exact ih
    · exact kept _ step.1 step.2 after now ih acted

end Viewer

end TrafficMeter
