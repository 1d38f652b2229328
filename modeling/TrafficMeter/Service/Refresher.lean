import TrafficMeter.Service.Poller
import TrafficMeter.Store.Basic

set_option autoImplicit false

namespace TrafficMeter

/-- What a waiting poller can take up. -/
inductive PollerTurn
  | ticked (now : Nat)
  | woken (now : Nat)
  | statisticsDue
  | stopped
deriving DecidableEq, Repr

def PollerTurn.event : PollerTurn → PollerEvent
  | ticked now => .ticked now
  | woken now => .woken now
  | statisticsDue => .statisticsDue
  | stopped => .stopped

/-- The poller with the file that it reads and the resets that rewrite it. The resets have the file
one after the other, but any number of them may have rewritten it without having asked for a poll
yet. -/
structure Refresher where
  file : Option String
  /-- What the reset that has the file is about to write. -/
  rewriting : Option String
  /-- Resets that have rewritten the file and have yet to ask for a poll. -/
  asking : Nat
  /-- What the newest poll has come to, once it has read the file. -/
  outcome : Option (Except StoreFault Batch)
  poller : Poller

/-- What can happen next, in any order. -/
inductive RefreshEvent
  /-- The file is replaced from outside, or removed. -/
  | fileWritten (file : Option String)
  /-- A reset reads the file at a Unix time. -/
  | resetBegun (scope : Scope) (now : Int)
  /-- The reset that has the file puts its text in place. -/
  | fileReset
  /-- The reset that has the file cannot write it. -/
  | resetFailed
  /-- A reset that has rewritten the file asks for a poll, which is the last that it does. -/
  | resetEnded
  | turned (turn : PollerTurn)
  /-- The poll under way reads the file, unless the system lets it down. -/
  | fileRead (fault : Option StoreFault)
  | pollEnded
deriving DecidableEq, Repr

namespace Refresher

/-- A first batch may have been read before the poller starts. -/
def start (period : Nat) (file : Option String) (first : Option Batch) : Refresher where
  file := file
  rewriting := none
  asking := 0
  outcome := none
  poller := { Poller.start period with history := (first.map History.empty.push).getD .empty }

/-- What a poll comes to that reads the file now. -/
def read (source : AggregateSource) (state : Refresher) (fault : Option StoreFault) :
    Except StoreFault Batch :=
  match fault with
  | some reason => .error reason
  | none => Store.fetch source state.file

/-- An event that does not find what it needs changes nothing, and neither does a reset that is
refused. -/
def step (source : AggregateSource) (state : Refresher) (event : RefreshEvent) : Refresher :=
  match event with
  | .fileWritten file => { state with file }
  | .resetBegun scope now =>
    match state.rewriting, Store.reset source now scope state.file with
    | none, .ok text => { state with rewriting := some text }
    | _, _ => state
  | .fileReset =>
    match state.rewriting with
    | some text => { state with file := some text, rewriting := none, asking := state.asking + 1 }
    | none => state
  | .resetFailed => { state with rewriting := none }
  | .resetEnded =>
    match state.asking with
    | others + 1 => { state with asking := others, poller := state.poller.step .requested }
    | 0 => state
  | .turned turn =>
    -- a poll that begins now has read nothing yet
    match state.poller.phase with
    | .waiting => { state with outcome := none, poller := state.poller.step turn.event }
    | _ => state
  | .fileRead fault =>
    match state.poller.phase, state.outcome with
    | .polling, none => { state with outcome := some (state.read source fault) }
    | _, _ => state
  | .pollEnded =>
    match state.poller.phase, state.outcome with
    | .polling, some outcome =>
      { state with poller := state.poller.step (.polled outcome.toOption) }
    | _, _ => state

/-- What is left after some events. -/
def run (source : AggregateSource) (state : Refresher) (events : List RefreshEvent) : Refresher :=
  events.foldl (step source) state

end Refresher

end TrafficMeter
