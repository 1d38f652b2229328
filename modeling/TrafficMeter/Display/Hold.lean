set_option autoImplicit false

namespace TrafficMeter

/-- How many holds keep a display still, and whether a redraw waits for the last of them to end. -/
structure DisplayHold where
  depth : Nat
  pending : Bool
deriving DecidableEq, Repr

inductive HoldStep
  | lock
  | unlock
  | request
deriving DecidableEq, Repr

namespace DisplayHold

def free : DisplayHold := ⟨0, false⟩

def isLocked (hold : DisplayHold) : Bool := 0 < hold.depth

/-- The most holds that are counted. -/
def depthLimit : Nat := UInt32.size - 1

/-- Holds nest. -/
def lock (hold : DisplayHold) : DisplayHold :=
  { hold with depth := min (hold.depth + 1) depthLimit }

/-- Ends one hold and tells whether a redraw is due now; without a hold there is nothing to end. -/
def unlock (hold : DisplayHold) : DisplayHold × Bool :=
  let depth := hold.depth - 1
  if depth = 0 ∧ hold.pending then (free, true) else ({ hold with depth }, false)

/-- Asks for a redraw and tells whether it may happen now; under a hold any number of requests
leave one behind. -/
def request (hold : DisplayHold) : DisplayHold × Bool :=
  if hold.isLocked then ({ hold with pending := true }, false) else (hold, true)

/-- The hold after a step, and whether a redraw is due now. -/
def step (hold : DisplayHold) : HoldStep → DisplayHold × Bool
  | .lock => (hold.lock, false)
  | .unlock => hold.unlock
  | .request => hold.request

@[simp] theorem isLocked_free : free.isLocked = false := rfl

theorem isLocked_eq_true_iff (hold : DisplayHold) : hold.isLocked = true ↔ 0 < hold.depth := by
  simp [isLocked]

@[simp] theorem isLocked_lock (hold : DisplayHold) : hold.lock.isLocked = true := by
  rw [isLocked_eq_true_iff]
  simp only [lock, depthLimit, UInt32.size]
  omega

@[simp] theorem pending_lock (hold : DisplayHold) : hold.lock.pending = hold.pending := rfl

@[simp] theorem depth_unlock (hold : DisplayHold) : hold.unlock.1.depth = hold.depth - 1 := by
  simp only [unlock]
  split
  · rename_i ended
    exact ended.1.symm
  · rfl

@[simp] theorem depth_request (hold : DisplayHold) : hold.request.1.depth = hold.depth := by
  simp only [request]
  split <;> rfl

theorem request_of_locked (hold : DisplayHold) (locked : hold.isLocked = true) :
    hold.request = ({ hold with pending := true }, false) := by
  simp only [request, locked, ↓reduceIte]

theorem request_of_unlocked (hold : DisplayHold) (unlocked : hold.isLocked = false) :
    hold.request = (hold, true) := by
  simp [request, unlocked]

end DisplayHold

end TrafficMeter
