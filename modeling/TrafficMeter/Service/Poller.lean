import TrafficMeter.Display.History

set_option autoImplicit false

namespace TrafficMeter

inductive PollerPhase
  | waiting
  | polling
  | finished
deriving DecidableEq, Repr

/-- Polls the store at regular times and on request, and keeps the last good batches. Times are
milliseconds. -/
structure Poller where
  period : Nat
  deadline : Nat
  /-- A request for a poll; however many are made before it is met, one is remembered. -/
  wanted : Bool
  phase : PollerPhase
  history : History
  /-- Polls begun so far. -/
  polls : Nat
deriving DecidableEq, Repr

inductive PollerEvent
  /-- The clock reached the deadline. -/
  | ticked (now : Nat)
  | requested
  /-- A remembered request is taken up. -/
  | woken (now : Nat)
  /-- Statistics are logged. -/
  | statisticsDue
  /-- The poll under way ends, with a batch if it succeeded. -/
  | polled (batch : Option Batch)
  | stopped
deriving DecidableEq, Repr

namespace Poller

/-- The first poll is due at once. -/
def start (period : Nat) : Poller := ⟨period, 0, false, .waiting, .empty, 0⟩

/-- How late a deadline may be met without any being skipped. -/
def patience : Nat := 5

/-- How far ahead a deadline may lie: thirty years of 365 days. -/
def horizon : Nat := 30 * 365 * 86400000

/-- The deadline after one that is met now: deadlines that were missed are skipped, and later ones
stay on the same grid. One beyond the horizon is due there. -/
def nextDeadline (period deadline now : Nat) : Nat :=
  let next :=
    if deadline + patience < now then now + period - (now - deadline) % period
    else deadline + period
  min next (now + horizon)

/-- Everything but the end of a poll finds the poller waiting. -/
def step (poller : Poller) (event : PollerEvent) : Poller :=
  match event, poller.phase with
  | .requested, _ => { poller with wanted := true }
  | .ticked now, .waiting =>
    { poller with
      phase := .polling
      polls := poller.polls + 1
      deadline := nextDeadline poller.period poller.deadline now }
  | .woken now, .waiting =>
    if poller.wanted then
      { poller with
        phase := .polling
        polls := poller.polls + 1
        wanted := false
        deadline := now + min poller.period horizon }
    else poller
  | .polled batch, .polling =>
    { poller with
      phase := .waiting
      history := (batch.map poller.history.push).getD poller.history }
  | .stopped, .waiting => { poller with phase := .finished }
  | _, _ => poller

/-- What a waiting poller does next of itself. -/
def due? (poller : Poller) (now : Nat) : Option PollerEvent :=
  if poller.phase = .waiting then
    if poller.wanted then some (.woken now)
    else if poller.deadline ≤ now then some (.ticked now)
    else none
  else none

/-- Lets the poller do what is due, where every poll ends at once with the same outcome. -/
def settleWithin (now : Nat) (batch : Option Batch) : Nat → Poller → Poller
  | 0, poller => poller
  | steps + 1, poller =>
    match poller.due? now with
    | none => poller
    | some event => settleWithin now batch steps ((poller.step event).step (.polled batch))

/-- A request and the deadlines within the patience are all that can be due at one time. -/
def settle (now : Nat) (batch : Option Batch) (poller : Poller) : Poller :=
  settleWithin now batch (patience + 3) poller

end Poller

end TrafficMeter
