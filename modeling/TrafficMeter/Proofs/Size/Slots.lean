import TrafficMeter.Size.Basic

set_option autoImplicit false

namespace TrafficMeter

namespace Size

@[simp] theorem none_addSlot (slot : Option Size) : addSlot none slot = slot := by
  cases slot with
  | none => rfl
  | some size => exact congrArg some (Size.zero_add size)

@[simp] theorem addSlot_none (slot : Option Size) : addSlot slot none = slot := by
  cases slot with
  | none => rfl
  | some size => exact congrArg some (Size.add_zero size)

theorem addSlot_assoc (first second third : Option Size) :
    addSlot (addSlot first second) third = addSlot first (addSlot second third) := by
  cases first with
  | none => rw [none_addSlot, none_addSlot]
  | some left =>
    cases second with
    | none => rw [addSlot_none, none_addSlot]
    | some middle =>
      cases third with
      | none => rw [addSlot_none, addSlot_none]
      | some right => exact congrArg some (Size.add_assoc left middle right)

theorem addSlot_comm (left right : Option Size) : addSlot left right = addSlot right left := by
  cases left with
  | none => rw [none_addSlot, addSlot_none]
  | some size =>
    cases right with
    | none => rw [none_addSlot, addSlot_none]
    | some other => exact congrArg some (Size.add_comm size other)

theorem foldl_addSlot (slots : List (Option Size)) (start : Option Size) :
    slots.foldl addSlot start = addSlot start (sumSlots slots) := by
  induction slots generalizing start with
  | nil => exact (addSlot_none start).symm
  | cons slot rest ih =>
    rw [sumSlots, List.foldl_cons, List.foldl_cons, none_addSlot, ih, ih slot, addSlot_assoc]

@[simp] theorem sumSlots_nil : sumSlots [] = none := rfl

@[simp] theorem sumSlots_cons (slot : Option Size) (rest : List (Option Size)) :
    sumSlots (slot :: rest) = addSlot slot (sumSlots rest) := by
  rw [sumSlots, List.foldl_cons, none_addSlot, foldl_addSlot]

theorem addSlot_eq_none_iff (left right : Option Size) :
    addSlot left right = none ↔ left = none ∧ right = none := by
  cases left <;> cases right <;> simp [addSlot]

/-- A sum is absent only if every slot is. -/
theorem sumSlots_eq_none_iff (slots : List (Option Size)) :
    sumSlots slots = none ↔ ∀ slot ∈ slots, slot = none := by
  induction slots with
  | nil => simp
  | cons slot rest ih => rw [sumSlots_cons, addSlot_eq_none_iff, ih, List.forall_mem_cons]

theorem getD_addSlot (left right : Option Size) :
    (addSlot left right).getD 0 = left.getD 0 + right.getD 0 := by
  cases left with
  | none => rw [none_addSlot, Option.getD_none, Size.zero_add]
  | some size => cases right <;> rfl

@[simp] theorem sumPresent_cons (slot : Option Size) (rest : List (Option Size)) :
    sumPresent (slot :: rest) = slot.getD 0 + sumPresent rest := by
  cases slot with
  | none => exact (Size.zero_add _).symm
  | some size => rfl

theorem getD_sumSlots (slots : List (Option Size)) :
    (sumSlots slots).getD 0 = sumPresent slots := by
  induction slots with
  | nil => rfl
  | cons slot rest ih => rw [sumSlots_cons, getD_addSlot, ih, sumPresent_cons]

theorem sumSlots_of_present (slots : List (Option Size)) (present : sumSlots slots ≠ none) :
    sumSlots slots = some (sumPresent slots) := by
  obtain ⟨size, size_eq⟩ := Option.ne_none_iff_exists'.mp present
  rw [← getD_sumSlots, size_eq, Option.getD_some]

theorem sumPresent_append (left right : List (Option Size)) :
    sumPresent (left ++ right) = sumPresent left + sumPresent right := by
  induction left with
  | nil => exact (Size.zero_add _).symm
  | cons slot rest ih => rw [List.cons_append, sumPresent_cons, sumPresent_cons, ih, Size.add_assoc]

theorem sumPresent_of_blank (slots : List (Option Size)) (blank : ∀ slot ∈ slots, slot = none) :
    sumPresent slots = 0 := by
  rw [← getD_sumSlots, (sumSlots_eq_none_iff slots).mpr blank, Option.getD_none]

theorem sumPresent_eq_sum (slots : List (Option Size)) :
    sumPresent slots = (slots.map (·.getD 0)).sum := by
  induction slots with
  | nil => rfl
  | cons slot rest ih => rw [sumPresent_cons, ih, List.map_cons, List.sum_cons]

/-- Two sums are the same if the present values come to the same and neither or both lack all. -/
theorem sumSlots_congr (left right : List (Option Size))
    (absent : (∀ slot ∈ left, slot = none) ↔ ∀ slot ∈ right, slot = none)
    (same : sumPresent left = sumPresent right) : sumSlots left = sumSlots right := by
  rw [← sumSlots_eq_none_iff, ← sumSlots_eq_none_iff] at absent
  by_cases blank : sumSlots left = none
  · rw [blank, absent.mp blank]
  · rw [sumSlots_of_present left blank, sumSlots_of_present right (mt absent.mpr blank), same]

@[simp] theorem sumSlots_replicate_none (count : Nat) :
    sumSlots (List.replicate count none) = none := by
  rw [sumSlots_eq_none_iff]
  exact fun slot member => List.eq_of_mem_replicate member

theorem sumSlots_append (left right : List (Option Size)) :
    sumSlots (left ++ right) = addSlot (sumSlots left) (sumSlots right) := by
  rw [sumSlots, List.foldl_append, foldl_addSlot]
  rfl

theorem sumSlots_perm (slots reordered : List (Option Size)) (perm : slots.Perm reordered) :
    sumSlots slots = sumSlots reordered := by
  apply perm.foldl_eq'
  intro first _ second _ total
  rw [addSlot_assoc, addSlot_assoc, addSlot_comm second first]

/-- Slots may be summed group by group. -/
theorem sumSlots_flatMap {α : Type} (items : List α) (slots : α → List (Option Size)) :
    sumSlots (items.flatMap slots) = sumSlots (items.map fun item => sumSlots (slots item)) := by
  induction items with
  | nil => rfl
  | cons item rest ih => rw [List.flatMap_cons, sumSlots_append, ih, List.map_cons, sumSlots_cons]

/-- What is not found adds nothing. -/
theorem sumSlots_map_filterMap {α β : Type} (items : List α) (find : α → Option β)
    (value : β → Option Size) :
    sumSlots ((items.filterMap find).map value) =
      sumSlots (items.map fun item => (find item).bind value) := by
  induction items with
  | nil => rfl
  | cons item rest ih =>
    rw [List.map_cons, sumSlots_cons, ← ih]
    cases found : find item with
    | none => rw [List.filterMap_cons_none found, Option.bind_none, none_addSlot]
    | some result =>
      rw [List.filterMap_cons_some found, List.map_cons, sumSlots_cons, Option.bind_some]

/-- Items without a value may be left out of a sum. -/
theorem sumSlots_map_filter {α : Type} (items : List α) (kept : α → Bool)
    (value : α → Option Size) (blank : ∀ item ∈ items, kept item = false → value item = none) :
    sumSlots ((items.filter kept).map value) = sumSlots (items.map value) := by
  induction items with
  | nil => rfl
  | cons item rest ih =>
    have remaining := ih (fun next member => blank next (List.mem_cons_of_mem _ member))
    by_cases chosen : kept item
    · rw [List.filter_cons_of_pos chosen, List.map_cons, List.map_cons, sumSlots_cons,
        sumSlots_cons, remaining]
    · have absent := blank item List.mem_cons_self (Bool.eq_false_iff.mpr chosen)
      rw [List.filter_cons_of_neg chosen, List.map_cons, sumSlots_cons, absent, none_addSlot,
        remaining]

end Size

end TrafficMeter
