import Mathlib.Data.List.Infix
import TrafficMeter.Proofs.Display.HoldRuns

set_option autoImplicit false

namespace TrafficMeter

namespace HoldStep

/-- A lock comes while the display is free, and from then on there is no moment without a hold. -/
structure HeldSince (before during : List HoldStep) : Prop where
  free : openLocks before = 0
  held : ∀ part, part <+: during → 0 < openLocks (before ++ .lock :: part)

/-- A redraw was asked for since the display was last free. -/
def AskedSinceFree (steps : List HoldStep) : Prop :=
  ∃ before during, steps = before ++ .lock :: during ∧ HeldSince before during ∧ .request ∈ during

/-- Never were more locks open than are counted. -/
def Counted (steps : List HoldStep) : Prop :=
  ∀ part, part <+: steps → openLocks part < UInt32.size

theorem Counted.of_prefix {part steps : List HoldStep} (counted : Counted steps)
    (beginning : part <+: steps) : Counted part := by
  intro earlier before
  exact counted earlier (before.trans beginning)

theorem Counted.depth_eq {steps : List HoldStep} (counted : Counted steps) :
    depth steps = openLocks steps := by
  apply depth_eq_openLocks
  intro part beginning
  have below := counted part beginning
  simp only [DisplayHold.depthLimit]
  omega

theorem openLocks_le_length (steps : List HoldStep) : openLocks steps ≤ steps.length := by
  induction steps using List.reverseRecOn with
  | nil => exact Nat.le_refl 0
  | append_singleton steps step ih =>
    rw [openLocks_append_singleton, List.length_append, List.length_singleton]
    cases step with
    | lock => exact Nat.succ_le_succ ih
    | unlock =>
      simp only [openAfter]
      omega
    | request => exact Nat.le_succ_of_le ih

/-- It takes four billion steps to leave the range of the count. -/
theorem counted_of_length (steps : List HoldStep) (short : steps.length < UInt32.size) :
    Counted steps := by
  intro part beginning
  have opened := openLocks_le_length part
  have shorter := beginning.length_le
  omega

theorem HeldSince.dropLast {before during : List HoldStep} {step : HoldStep}
    (held : HeldSince before (during ++ [step])) : HeldSince before during where
  free := held.free
  held part beginning := held.held part (beginning.trans (List.prefix_append _ _))

theorem HeldSince.append {before during : List HoldStep} (held : HeldSince before during)
    (step : HoldStep) (positive : 0 < openLocks (before ++ .lock :: (during ++ [step]))) :
    HeldSince before (during ++ [step]) where
  free := held.free
  held part beginning := by
    rcases List.prefix_concat_iff.mp beginning with rfl | earlier
    · exact positive
    · exact held.held part earlier

theorem append_lock_append (before during : List HoldStep) (step : HoldStep) :
    before ++ .lock :: (during ++ [step]) = before ++ .lock :: during ++ [step] := by
  simp

/-- Wherever a hold is left, the lock can be found that took the display from free to held. -/
theorem exists_heldSince (steps : List HoldStep) (positive : 0 < openLocks steps) :
    ∃ before during, steps = before ++ .lock :: during ∧ HeldSince before during := by
  induction steps using List.reverseRecOn with
  | nil => exact absurd positive (Nat.lt_irrefl 0)
  | append_singleton steps step ih =>
    by_cases free : openLocks steps = 0
    · have opened : step = .lock := by
        rw [openLocks_append_singleton, free] at positive
        cases step with
        | lock => rfl
        | unlock => exact absurd positive (Nat.lt_irrefl 0)
        | request => exact absurd positive (Nat.lt_irrefl 0)
      subst opened
      refine ⟨steps, [], rfl, free, ?_⟩
      intro part beginning
      rw [List.prefix_nil.mp beginning]
      exact positive
    · obtain ⟨before, during, rfl, held⟩ := ih (by omega)
      rw [← append_lock_append] at positive ⊢
      exact ⟨before, during ++ [step], rfl, held.append step positive⟩

theorem AskedSinceFree.positive {steps : List HoldStep} (asked : AskedSinceFree steps) :
    0 < openLocks steps := by
  obtain ⟨before, during, rfl, held, _⟩ := asked
  exact held.held during (List.prefix_refl during)

theorem not_askedSinceFree_nil : ¬ AskedSinceFree [] := by
  intro asked
  exact Nat.lt_irrefl 0 asked.positive

/-- A step that leaves a hold keeps what was asked for, and under a hold a request is kept. -/
theorem askedSinceFree_append_singleton (steps : List HoldStep) (step : HoldStep) :
    AskedSinceFree (steps ++ [step]) ↔
      0 < openLocks (steps ++ [step]) ∧ (step = .request ∨ AskedSinceFree steps) := by
  constructor
  · intro asked
    refine ⟨asked.positive, ?_⟩
    obtain ⟨before, during, split, held, request⟩ := asked
    rcases List.eq_nil_or_concat during with rfl | ⟨rest, last, rfl⟩
    · cases request
    · rw [List.concat_eq_append] at split held request
      rw [← List.cons_append, ← List.append_assoc] at split
      obtain ⟨rfl, same⟩ := List.append_inj' split rfl
      cases same
      rcases List.mem_append.mp request with earlier | now
      · exact .inr ⟨before, rest, rfl, held.dropLast, earlier⟩
      · exact .inl (List.mem_singleton.mp now).symm
  · rintro ⟨positive, rfl | ⟨before, during, rfl, held, request⟩⟩
    · have open_before : 0 < openLocks steps := by
        rw [openLocks_append_singleton] at positive
        exact positive
      obtain ⟨before, during, rfl, held⟩ := exists_heldSince steps open_before
      rw [← append_lock_append] at positive ⊢
      exact ⟨before, during ++ [.request], rfl, held.append .request positive,
        List.mem_append_right _ (List.mem_singleton.mpr rfl)⟩
    · rw [← append_lock_append] at positive ⊢
      exact ⟨before, during ++ [step], rfl, held.append step positive,
        List.mem_append_left _ request⟩

/-- In a held interval a redraw was asked for if the interval has a request. -/
theorem HeldSince.asked_iff {before during : List HoldStep} (held : HeldSince before during) :
    AskedSinceFree (before ++ .lock :: during) ↔ .request ∈ during := by
  induction during using List.reverseRecOn with
  | nil =>
    rw [askedSinceFree_append_singleton]
    constructor
    · rintro ⟨_, impossible | asked⟩
      · cases impossible
      · have positive := asked.positive
        rw [held.free] at positive
        exact absurd positive (Nat.lt_irrefl 0)
    · intro impossible
      cases impossible
  | append_singleton during step ih =>
    have positive := held.held (during ++ [step]) (List.prefix_refl _)
    rw [append_lock_append] at positive ⊢
    rw [askedSinceFree_append_singleton, ih held.dropLast, List.mem_append, List.mem_singleton]
    constructor
    · rintro ⟨_, rfl | earlier⟩
      · exact .inr rfl
      · exact .inl earlier
    · rintro (earlier | rfl)
      · exact ⟨positive, .inr earlier⟩
      · exact ⟨positive, .inl rfl⟩

/-- While the locks are counted in full, a redraw waits since the display was last free. -/
theorem Counted.askedWhileHeld_iff {steps : List HoldStep} (counted : Counted steps) :
    AskedWhileHeld steps ↔ AskedSinceFree steps := by
  induction steps using List.reverseRecOn with
  | nil => exact iff_of_false not_askedWhileHeld_nil not_askedSinceFree_nil
  | append_singleton steps step ih =>
    rw [askedWhileHeld_append_singleton, askedSinceFree_append_singleton, counted.depth_eq,
      ih (counted.of_prefix (List.prefix_append _ _))]

end HoldStep

namespace DisplayHold

open HoldStep

variable {before during : List HoldStep}

theorem depth_run (counted : Counted before) : (run before).depth = openLocks before := by
  rw [(run_spec before).1, counted.depth_eq]

theorem pending_run_iff (counted : Counted before) :
    (run before).pending ↔ AskedSinceFree before := by
  rw [(run_spec before).2, counted.askedWhileHeld_iff]

/-- What a step after a history returns: a redraw is due if the step leaves no hold, and was asked
for now or under the hold that ends. -/
theorem due_after_iff (step : HoldStep) (counted : Counted (before ++ [step])) :
    ((run before).step step).2 ↔ openLocks (before ++ [step]) = 0 ∧
      (step = .request ∨ step = .unlock ∧ AskedSinceFree before) := by
  have earlier := counted.of_prefix (List.prefix_append before [step])
  rw [due_step_iff, ← depth_step, ← run_append_singleton, depth_run counted,
    pending_run_iff earlier]

theorem run_of_free (counted : Counted before) (none_open : openLocks before = 0) :
    run before = free := by
  have depth_eq := depth_run counted
  have not_pending : ¬ (run before).pending := by
    rw [pending_run_iff counted]
    intro asked
    have positive := asked.positive
    omega
  cases hold : run before with
  | mk depth pending =>
    rw [hold] at depth_eq not_pending
    simp only [none_open] at depth_eq
    simp only [Bool.not_eq_true] at not_pending
    rw [depth_eq, not_pending]
    rfl

/-- How many redraws come due in the course of the steps after a history. -/
def redraws (before : List HoldStep) : List HoldStep → Nat
  | [] => 0
  | step :: rest => ((run before).step step).2.toNat + redraws (before ++ [step]) rest

theorem redraws_append_singleton (steps : List HoldStep) (step : HoldStep) :
    redraws before (steps ++ [step]) =
      redraws before steps + ((run (before ++ steps)).step step).2.toNat := by
  induction steps generalizing before with
  | nil => simp [redraws]
  | cons first rest ih =>
    rw [List.cons_append, redraws, redraws, ih, Nat.add_assoc]
    simp

/-- Nothing is redrawn as long as the display is held. -/
theorem redraws_of_held (held : HeldSince before during)
    (counted : Counted (before ++ .lock :: during)) :
    redraws before (.lock :: during) = 0 := by
  induction during using List.reverseRecOn with
  | nil => rfl
  | append_singleton during step ih =>
    have positive := held.held (during ++ [step]) (List.prefix_refl _)
    rw [append_lock_append] at positive counted
    have not_due : ¬ ((run (before ++ .lock :: during)).step step).2 := by
      rw [due_after_iff step counted]
      omega
    rw [← List.cons_append, redraws_append_singleton,
      ih held.dropLast (counted.of_prefix (List.prefix_append _ _)),
      Bool.eq_false_iff.mpr not_due]
    rfl

/-- A hold gathers redraws and loses none: a request is served at once if no lock is open, and
otherwise when the last lock goes; each held interval with a request in it ends in one redraw, one
without in none; and an unlock without a lock changes nothing. -/
theorem redraw_once_per_hold (steps : List HoldStep) (counted : Counted steps) :
    (∀ before step, before ++ [step] <+: steps →
      (step = .request → (((run before).step step).2 ↔ openLocks before = 0)) ∧
      (step = .unlock → (((run before).step step).2 ↔
        openLocks before = 1 ∧ AskedSinceFree before)) ∧
      ((run (before ++ [step])).pending ↔
        0 < openLocks (before ++ [step]) ∧ AskedSinceFree (before ++ [step]))) ∧
    (∀ before during, before ++ .lock :: during ++ [.unlock] <+: steps →
      HeldSince before during → openLocks (before ++ .lock :: during) = 1 →
      redraws before (.lock :: during ++ [.unlock]) = if .request ∈ during then 1 else 0) ∧
    (∀ before, before ++ [.unlock] <+: steps → openLocks before = 0 →
      (run before).step .unlock = (run before, false)) := by
  refine ⟨?_, ?_, ?_⟩
  · intro before step beginning
    have now := counted.of_prefix beginning
    refine ⟨?_, ?_, ?_⟩
    · rintro rfl
      rw [due_after_iff .request now, openLocks_append_singleton]
      simp [openAfter]
    · rintro rfl
      rw [due_after_iff .unlock now, openLocks_append_singleton]
      constructor
      · rintro ⟨ended, impossible | ⟨_, asked⟩⟩
        · cases impossible
        · have positive := asked.positive
          simp only [openAfter] at ended
          exact ⟨by omega, asked⟩
      · rintro ⟨last, asked⟩
        refine ⟨?_, .inr ⟨rfl, asked⟩⟩
        simp only [openAfter, last]
    · rw [pending_run_iff now, iff_and_self]
      exact AskedSinceFree.positive
  · intro before during beginning held last
    have now := counted.of_prefix beginning
    have quiet := redraws_of_held held (now.of_prefix (List.prefix_append _ _))
    have due_iff := due_after_iff .unlock now
    rw [openLocks_append_singleton, last, held.asked_iff] at due_iff
    simp only [openAfter, reduceCtorEq, false_or, true_and] at due_iff
    rw [redraws_append_singleton, quiet, Nat.zero_add]
    split
    · rename_i asked
      rw [due_iff.mpr asked]
      rfl
    · rename_i none_asked
      rw [Bool.eq_false_iff.mpr (mt due_iff.mp none_asked)]
      rfl
  · intro before beginning none_open
    have earlier := counted.of_prefix ((List.prefix_append _ _).trans beginning)
    rw [run_of_free earlier none_open]
    rfl

/-- An unlock that comes too early does nothing, two nested locks with two requests end in one
redraw, and a lock without a request ends in none. -/
theorem redraw_once_per_hold_nested :
    (run []).step .unlock = (run [], false) ∧
      redraws [.unlock] [.lock, .lock, .request, .request, .unlock, .unlock] = 1 ∧
      redraws [.unlock, .lock, .lock, .request, .request, .unlock, .unlock]
        [.lock, .unlock] = 0 := by
  have held_nested : HeldSince [.unlock] [.lock, .request, .request, .unlock] := by
    refine ⟨by decide, fun part beginning => ?_⟩
    rw [← List.mem_inits] at beginning
    revert part
    decide
  have held_idle :
      HeldSince [.unlock, .lock, .lock, .request, .request, .unlock, .unlock] [] := by
    refine ⟨by decide, fun part beginning => ?_⟩
    rw [List.prefix_nil.mp beginning]
    decide
  obtain ⟨_, intervals, unbalanced⟩ := redraw_once_per_hold
    [.unlock, .lock, .lock, .request, .request, .unlock, .unlock, .lock, .unlock]
    (counted_of_length _ (by decide))
  refine ⟨unbalanced [] (by decide) (by decide), ?_, ?_⟩
  · exact intervals _ _ (by decide) held_nested (by decide)
  · exact intervals _ [] (by decide) held_idle (by decide)

end DisplayHold

end TrafficMeter
