import TrafficMeter.Number.Decimal
import TrafficMeter.Snapshot.Batch

set_option autoImplicit false

namespace TrafficMeter

/-- Why nothing can be shown. -/
inductive LookupFault
  | noSnapshot
  | unknownServer (index : Nat)
deriving DecidableEq, Repr

def LookupFault.message : LookupFault → String
  | noSnapshot => "no volume snapshot has been loaded yet"
  | unknownServer index => "unknown server " ++ Decimal.text index

/-- The two newest batches, as far as there are any. -/
structure History where
  current : Option Batch
  previous : Option Batch
deriving DecidableEq, Repr

namespace History

def empty : History := ⟨none, none⟩

/-- A new batch takes the place of the current one, which becomes the previous one. -/
def push (history : History) (batch : Batch) : History := ⟨some batch, history.current⟩

/-- A server's snapshot in the current batch. -/
def find (history : History) (scope : Scope) : Except LookupFault (Batch × Snapshot) :=
  match history.current with
  | none => .error .noSnapshot
  | some batch =>
    match batch.snapshot? scope with
    | none => .error (.unknownServer scope.index)
    | some snapshot => .ok (batch, snapshot)

theorem find_of_found (history : History) (batch : Batch) (scope : Scope) (snapshot : Snapshot)
    (loaded : history.current = some batch) (found : batch.snapshot? scope = some snapshot) :
    history.find scope = .ok (batch, snapshot) := by
  simp only [find, loaded, found]

theorem find_of_missing (history : History) (batch : Batch) (scope : Scope)
    (loaded : history.current = some batch) (missing : batch.snapshot? scope = none) :
    history.find scope = .error (.unknownServer scope.index) := by
  simp only [find, loaded, missing]

end History

end TrafficMeter
