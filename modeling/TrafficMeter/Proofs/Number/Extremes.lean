set_option autoImplicit false

namespace TrafficMeter

theorem le_foldl_max_iff (numbers : List Nat) (start bound : Nat) :
    bound ≤ numbers.foldl max start ↔ bound ≤ start ∨ ∃ number ∈ numbers, bound ≤ number := by
  induction numbers generalizing start with
  | nil => simp
  | cons number rest ih =>
    have larger : bound ≤ max start number ↔ bound ≤ start ∨ bound ≤ number := by omega
    rw [List.foldl_cons, ih, larger, or_assoc]
    simp only [List.mem_cons, exists_eq_or_imp]

/-- The first of ordered numbers is the least of them; with none there is nothing below the
bound. -/
theorem head?_getD_le_iff (numbers : List Nat) (ordered : numbers.Pairwise (· ≤ ·))
    (substitute bound : Nat) (below : bound < substitute) :
    numbers.head?.getD substitute ≤ bound ↔ ∃ number ∈ numbers, number ≤ bound := by
  cases numbers with
  | nil =>
    simp only [List.head?_nil, Option.getD_none, List.not_mem_nil, false_and, exists_false,
      iff_false]
    omega
  | cons first rest =>
    rw [List.head?_cons, Option.getD_some]
    constructor
    · intro small
      exact ⟨first, List.mem_cons_self, small⟩
    · intro reached
      obtain ⟨number, member, small⟩ := reached
      rcases List.mem_cons.mp member with rfl | later
      · exact small
      · exact Nat.le_trans (List.rel_of_pairwise_cons ordered later) small

section Order

variable (numbers reordered : List Int) (perm : numbers.Perm reordered)

include perm

theorem min?_eq_of_perm : numbers.min? = reordered.min? := by
  cases found : numbers.min? with
  | none =>
    have empty := List.min?_eq_none_iff.mp found
    rw [empty] at perm
    rw [← perm.nil_eq, List.min?_nil]
  | some least =>
    obtain ⟨member, below⟩ := List.min?_eq_some_iff.mp found
    symm
    apply List.min?_eq_some_iff.mpr
    exact ⟨perm.mem_iff.mp member, fun number listed => below number (perm.mem_iff.mpr listed)⟩

theorem max?_eq_of_perm : numbers.max? = reordered.max? := by
  cases found : numbers.max? with
  | none =>
    have empty := List.max?_eq_none_iff.mp found
    rw [empty] at perm
    rw [← perm.nil_eq, List.max?_nil]
  | some greatest =>
    obtain ⟨member, above⟩ := List.max?_eq_some_iff.mp found
    symm
    apply List.max?_eq_some_iff.mpr
    exact ⟨perm.mem_iff.mp member, fun number listed => above number (perm.mem_iff.mpr listed)⟩

end Order

end TrafficMeter
