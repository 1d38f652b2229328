import TrafficMeter.Snapshot.Basic

set_option autoImplicit false

namespace TrafficMeter

/-- Whose data is shown: all servers together, or one of them, counted from zero. -/
inductive Scope
  | all
  | server (position : Nat)
deriving DecidableEq, Repr

namespace Scope

/-- Index in a batch, where the aggregate comes first. -/
def index : Scope → Nat
  | all => 0
  | server position => position + 1

def ofIndex : Nat → Scope
  | 0 => all
  | position + 1 => server position

@[simp] theorem index_ofIndex (index : Nat) : (ofIndex index).index = index := by
  cases index <;> rfl

@[simp] theorem ofIndex_index (scope : Scope) : ofIndex scope.index = scope := by
  cases scope <;> rfl

end Scope

/-- The snapshots of one poll: the aggregate and then one for each server. -/
structure Batch where
  aggregate : Snapshot
  servers : List Snapshot
deriving DecidableEq, Repr

namespace Batch

/-- The first snapshot is the aggregate, so there has to be one. -/
def ofList? : List Snapshot → Option Batch
  | [] => none
  | aggregate :: servers => some ⟨aggregate, servers⟩

def toList (batch : Batch) : List Snapshot := batch.aggregate :: batch.servers

/-- Number of snapshots, the aggregate included. -/
def size (batch : Batch) : Nat := batch.toList.length

def snapshot? (batch : Batch) (scope : Scope) : Option Snapshot := batch.toList[scope.index]?

/-- What leads from a day index of the aggregate to the index of the same day in a server's
buffer. -/
def dayShift (batch : Batch) (snapshot : Snapshot) : Int :=
  batch.aggregate.firstDay - snapshot.firstDay

end Batch

end TrafficMeter
