import Mathlib.Data.List.Induction
import TrafficMeter.Display.Hold

set_option autoImplicit false

namespace TrafficMeter

namespace HoldStep

/-- Locks that are open after a step; an unlock without one changes nothing. -/
def openAfter (locks : Nat) : HoldStep → Nat
  | .lock => locks + 1
  | .unlock => locks - 1
  | .request => locks

/-- Locks that are open after some steps. -/
def openLocks (steps : List HoldStep) : Nat := steps.foldl openAfter 0

/-- The same count as it is kept, which stops at the most holds that are counted. -/
def depthAfter (depth : Nat) : HoldStep → Nat
  | .lock => min (depth + 1) DisplayHold.depthLimit
  | .unlock => depth - 1
  | .request => depth

def depth (steps : List HoldStep) : Nat := steps.foldl depthAfter 0

/-- A redraw was asked for, and from then on there was no moment without a hold. -/
def AskedWhileHeld (steps : List HoldStep) : Prop :=
  ∃ before after, steps = before ++ .request :: after ∧
    ∀ later, later <+: after → 0 < depth (before ++ .request :: later)

theorem depth_append_singleton (steps : List HoldStep) (step : HoldStep) :
    depth (steps ++ [step]) = depthAfter (depth steps) step := by
  rw [depth, List.foldl_append, List.foldl_cons, List.foldl_nil, depth]

theorem openLocks_append_singleton (steps : List HoldStep) (step : HoldStep) :
    openLocks (steps ++ [step]) = openAfter (openLocks steps) step := by
  rw [openLocks, List.foldl_append, List.foldl_cons, List.foldl_nil, openLocks]

/-- The kept count tells the open locks as long as there were never more than it can tell. -/
theorem depth_eq_openLocks (steps : List HoldStep)
    (counted : ∀ part, part <+: steps → openLocks part ≤ DisplayHold.depthLimit) :
    depth steps = openLocks steps := by
  induction steps using List.reverseRecOn with
  | nil => rfl
  | append_singleton steps step ih =>
    have same := ih fun part beginning => counted part (beginning.trans (List.prefix_append _ _))
    have fits := counted _ (List.prefix_refl _)
    rw [openLocks_append_singleton] at fits
    rw [depth_append_singleton, openLocks_append_singleton, same]
    cases step with
    | lock => exact Nat.min_eq_left fits
    | unlock => rfl
    | request => rfl

theorem AskedWhileHeld.depth_pos {steps : List HoldStep} (asked : AskedWhileHeld steps) :
    0 < depth steps := by
  obtain ⟨before, after, rfl, held⟩ := asked
  exact held after (List.prefix_refl after)

theorem not_askedWhileHeld_nil : ¬ AskedWhileHeld [] := by
  intro asked
  exact Nat.lt_irrefl 0 asked.depth_pos

/-- What was asked for under a hold still waits after a step that leaves a hold, and a redraw that
is asked for under one waits from then on. -/
theorem askedWhileHeld_append_singleton (steps : List HoldStep) (step : HoldStep) :
    AskedWhileHeld (steps ++ [step]) ↔
      0 < depth (steps ++ [step]) ∧ (step = .request ∨ AskedWhileHeld steps) := by
  constructor
  · intro asked
    refine ⟨asked.depth_pos, ?_⟩
    obtain ⟨before, after, split, held⟩ := asked
    rcases List.eq_nil_or_concat after with rfl | ⟨rest, last, rfl⟩
    · obtain ⟨_, same⟩ := List.append_inj' split rfl
      exact .inl (List.singleton_inj.mp same)
    · rw [List.concat_eq_append, ← List.cons_append, ← List.append_assoc] at split
      obtain ⟨rfl, _⟩ := List.append_inj' split rfl
      refine .inr ⟨before, rest, rfl, ?_⟩
      intro later beginning
      rw [List.concat_eq_append] at held
      exact held later (beginning.trans (List.prefix_append _ _))
  · rintro ⟨positive, rfl | ⟨before, after, rfl, held⟩⟩
    · refine ⟨steps, [], rfl, ?_⟩
      intro later beginning
      rw [List.prefix_nil.mp beginning]
      exact positive
    · refine ⟨before, after ++ [step], by simp, ?_⟩
      intro later beginning
      rcases List.prefix_concat_iff.mp beginning with rfl | earlier
      · simpa using positive
      · exact held later earlier

end HoldStep

namespace DisplayHold

/-- The hold after some steps from the start. -/
def run (steps : List HoldStep) : DisplayHold :=
  steps.foldl (fun hold step => (hold.step step).1) free

theorem run_append_singleton (steps : List HoldStep) (step : HoldStep) :
    run (steps ++ [step]) = ((run steps).step step).1 := by
  rw [run, List.foldl_append, List.foldl_cons, List.foldl_nil, run]

theorem depth_step (hold : DisplayHold) (step : HoldStep) :
    (hold.step step).1.depth = step.depthAfter hold.depth := by
  cases step with
  | lock => rfl
  | unlock => exact hold.depth_unlock
  | request => exact hold.depth_request

/-- A redraw waits after a step if a hold is left and it waited before or was asked for now. -/
theorem pending_step (hold : DisplayHold) (step : HoldStep) (held : hold.pending → 0 < hold.depth) :
    (hold.step step).1.pending ↔
      0 < step.depthAfter hold.depth ∧ (step = .request ∨ hold.pending) := by
  cases step with
  | lock =>
    simp only [DisplayHold.step, pending_lock, HoldStep.depthAfter, depthLimit, UInt32.size,
      reduceCtorEq, false_or, iff_and_self]
    omega
  | unlock =>
    simp only [DisplayHold.step, DisplayHold.unlock, HoldStep.depthAfter, reduceCtorEq, false_or]
    split
    · rename_i ended
      simp only [free, Bool.false_eq_true, false_iff, not_and]
      omega
    · rename_i going
      rw [iff_and_self]
      intro waits
      have left : ¬ (hold.depth - 1 = 0) := fun ended => going ⟨ended, waits⟩
      omega
  | request =>
    cases locked : hold.isLocked with
    | true =>
      have positive := hold.isLocked_eq_true_iff.mp locked
      simp only [DisplayHold.step, hold.request_of_locked locked, HoldStep.depthAfter, positive,
        true_or, and_self]
    | false =>
      have none_held : ¬ 0 < hold.depth := by
        rw [← hold.isLocked_eq_true_iff, locked]
        exact Bool.false_ne_true
      simp only [DisplayHold.step, hold.request_of_unlocked locked, HoldStep.depthAfter, none_held,
        true_or, and_true, iff_false]
      exact fun waits => none_held (held waits)

/-- The count and the waiting redraw tell what the steps so far come to. -/
theorem run_spec (steps : List HoldStep) :
    (run steps).depth = HoldStep.depth steps ∧
      ((run steps).pending ↔ HoldStep.AskedWhileHeld steps) := by
  induction steps using List.reverseRecOn with
  | nil => exact ⟨rfl, iff_of_false Bool.false_ne_true HoldStep.not_askedWhileHeld_nil⟩
  | append_singleton steps step ih =>
    obtain ⟨depth_eq, pending_iff⟩ := ih
    have held : (run steps).pending → 0 < (run steps).depth := by
      intro waits
      rw [depth_eq]
      exact (pending_iff.mp waits).depth_pos
    constructor
    · rw [run_append_singleton, depth_step, depth_eq, HoldStep.depth_append_singleton]
    · rw [run_append_singleton, pending_step _ _ held, depth_eq, pending_iff,
        HoldStep.askedWhileHeld_append_singleton, HoldStep.depth_append_singleton]

/-- A request is served at once while nothing is held, and an unlock when it ends the last hold
with a redraw waiting. -/
theorem due_step_iff (hold : DisplayHold) (step : HoldStep) :
    (hold.step step).2 ↔ step.depthAfter hold.depth = 0 ∧
      (step = .request ∨ step = .unlock ∧ hold.pending) := by
  cases step with
  | lock =>
    simp [DisplayHold.step]
  | unlock =>
    simp only [DisplayHold.step, DisplayHold.unlock, HoldStep.depthAfter, reduceCtorEq, false_or,
      true_and]
    split
    · rename_i ended
      simp only [ended, and_self]
    · rename_i going
      simp only [Bool.false_eq_true, going]
  | request =>
    simp only [DisplayHold.step, DisplayHold.request, DisplayHold.isLocked, HoldStep.depthAfter,
      decide_eq_true_eq, true_or, and_true]
    split
    · simp only [Bool.false_eq_true, false_iff]
      omega
    · simp only [true_iff]
      omega

end DisplayHold

end TrafficMeter
