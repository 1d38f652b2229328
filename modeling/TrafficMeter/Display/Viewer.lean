import TrafficMeter.Period.Parser
import TrafficMeter.Display.Frame
import TrafficMeter.Display.Hold

set_option autoImplicit false

namespace TrafficMeter

/-- What one viewer has chosen to look at. -/
structure Viewer where
  /-- Years in which a period may be entered. -/
  years : YearLimits
  range : ChartRange
  /-- The last month or year that was chosen; a bare month or year range comes back to it. -/
  pinned : Option Period
  scope : Scope
  hold : DisplayHold
deriving DecidableEq, Repr

/-- Why a choice was refused. -/
inductive ActionFault
  | period (reason : PeriodFault)
  | lookup (reason : LookupFault)
deriving DecidableEq, Repr

def ActionFault.message : ActionFault → String
  | period reason => reason.message
  | lookup reason => reason.message

/-- What a viewer can do to the display. -/
inductive ViewerAction
  | showRange (range : ChartRange)
  | showServer (scope : Scope)
  | enterPeriod (input : String)
  | lock
  | unlock
  | askRedraw
deriving DecidableEq, Repr

/-- What is done to a viewer and may be refused. A refusal takes nothing back: whatever has been
changed before it stays changed. -/
abbrev ViewerM (ε : Type) := ExceptT ε (StateM Viewer)

namespace ViewerM

variable {ε ε' α β : Type}

/-- A change that is never refused. -/
def ofChange (change : Viewer → Viewer × α) : ViewerM ε α :=
  modifyGet fun viewer => (change viewer).swap

def mapError (convert : ε → ε') (action : ViewerM ε α) : ViewerM ε' α :=
  ExceptT.adapt convert action

/-- The viewer that is left, beside what has come of it. -/
def on (action : ViewerM ε α) (viewer : Viewer) : Viewer × Except ε α :=
  (action.run.run viewer).run.swap

@[simp] theorem on_get (viewer : Viewer) :
    (get : ViewerM ε Viewer).on viewer = (viewer, .ok viewer) := rfl

/-- What is found out without a look at the viewer. -/
@[simp] theorem on_liftM (result : Except ε α) (viewer : Viewer) :
    (liftM result : ViewerM ε α).on viewer = (viewer, result) := rfl

@[simp] theorem on_mapError (convert : ε → ε') (action : ViewerM ε α) (viewer : Viewer) :
    (action.mapError convert).on viewer =
      ((action.on viewer).1, (action.on viewer).2.mapError convert) := rfl

theorem on_bind (action : ViewerM ε α) (next : α → ViewerM ε β) (viewer : Viewer) :
    (action >>= next).on viewer =
      match action.on viewer with
      | (viewer, .ok value) => (next value).on viewer
      | (viewer, .error reason) => (viewer, .error reason) := by
  unfold on
  rw [ExceptT.run_bind, StateT.run_bind, Id.run_bind]
  rcases (action.run.run viewer).run with ⟨_ | _, left⟩ <;> rfl

end ViewerM

namespace Viewer

def start (years : YearLimits) : Viewer := ⟨years, .lastMinute, none, .all, .free⟩

/-- A bare month or year range stands for the pinned period of its kind. -/
def reopen (pinned : Option Period) (range : ChartRange) : ChartRange :=
  match range, pinned with
  | .month none, some (.month shown) => .month (some shown)
  | .year none, some (.year shown) => .year (some shown)
  | range, _ => range

/-- Asks for a redraw and tells whether it may happen now. -/
def askRedraw (viewer : Viewer) : Viewer × Bool :=
  let (hold, now) := viewer.hold.request
  ({ viewer with hold }, now)

def lock (viewer : Viewer) : Viewer := { viewer with hold := viewer.hold.lock }

/-- Ends one hold and tells whether a redraw is due now. -/
def unlock (viewer : Viewer) : Viewer × Bool :=
  let (hold, now) := viewer.hold.unlock
  ({ viewer with hold }, now)

/-- A range that names its period pins it. -/
def showRange (viewer : Viewer) (range : ChartRange) : Viewer × Bool :=
  let range := reopen viewer.pinned range
  { viewer with range, pinned := range.period?.or viewer.pinned }.askRedraw

/-- The server has to be in the newest batch. -/
def showServer (history : History) (scope : Scope) : ViewerM LookupFault Bool := do
  let _ ← history.find scope
  modify ({ · with scope })
  .ofChange askRedraw

def enterPeriod (input : String) : ViewerM PeriodFault Bool := do
  let viewer ← get
  let period ← Period.parse viewer.years input
  .ofChange (·.showRange (.ofPeriod period))

/-- Takes an action, and tells whether a redraw is due now. -/
def perform (history : History) : ViewerAction → ViewerM ActionFault Bool
  | .showRange range => .ofChange (·.showRange range)
  | .showServer scope => (showServer history scope).mapError .lookup
  | .enterPeriod input => (enterPeriod input).mapError .period
  | .lock => .ofChange fun viewer => (viewer.lock, false)
  | .unlock => .ofChange unlock
  | .askRedraw => .ofChange askRedraw

/-- The viewer that an action leaves, refused or not, and whether a redraw is due now. -/
def act (viewer : Viewer) (history : History) (action : ViewerAction) :
    Viewer × Except ActionFault Bool :=
  (perform history action).on viewer

/-- What the viewer sees. -/
def render (viewer : Viewer) (history : History) (zone : Zone) : Except LookupFault Frame :=
  history.frame viewer.range viewer.scope zone

end Viewer

end TrafficMeter
