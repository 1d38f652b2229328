import TrafficMeter.Proofs.Size.Sums
import TrafficMeter.Proofs.Snapshot.Recorded

set_option autoImplicit false

namespace TrafficMeter

/-- A way to join values in which nothing but the values counts: neither their order nor their
grouping, nor a neutral value among them. -/
structure Pools {α : Type} (join : α → α → α) (neutral : α) : Prop where
  assoc : ∀ first second third, join (join first second) third = join first (join second third)
  comm : ∀ left right, join left right = join right left
  neutral_join : ∀ value, join neutral value = value

namespace Pools

variable {α : Type} {join : α → α → α} {neutral : α} (pools : Pools join neutral)

include pools

/-- What was joined before stands in front of all that comes. -/
theorem foldl_start (values : List α) (start : α) :
    values.foldl join start = join start (values.foldl join neutral) := by
  induction values generalizing start with
  | nil => rw [List.foldl_nil, List.foldl_nil, pools.comm, pools.neutral_join]
  | cons value rest ih =>
    rw [List.foldl_cons, List.foldl_cons, ih, ih (join neutral value), pools.neutral_join,
      pools.assoc]

theorem foldl_flatten (groups : List (List α)) :
    groups.flatten.foldl join neutral =
      (groups.map (·.foldl join neutral)).foldl join neutral := by
  induction groups with
  | nil => rfl
  | cons group rest ih =>
    rw [List.flatten_cons, List.foldl_append, List.map_cons, List.foldl_cons, pools.neutral_join,
      pools.foldl_start, ih, ← pools.foldl_start]

theorem foldl_perm (values reordered : List α) (perm : values.Perm reordered) :
    values.foldl join neutral = reordered.foldl join neutral := by
  apply perm.foldl_eq'
  intro first _ second _ joined
  rw [pools.assoc, pools.assoc, pools.comm second first]

/-- Values may be put in any order, then cut into groups anywhere. -/
theorem foldl_groups (values : List α) (groups : List (List α))
    (same : groups.flatten.Perm values) :
    (groups.map (·.foldl join neutral)).foldl join neutral = values.foldl join neutral := by
  rw [← pools.foldl_flatten]
  exact pools.foldl_perm _ _ same

end Pools

namespace Size

theorem pools_add : Pools (fun left right : Size => left + right) 0 where
  assoc := Size.add_assoc
  comm := Size.add_comm
  neutral_join := Size.zero_add

theorem pools_addSlot : Pools addSlot none where
  assoc := addSlot_assoc
  comm := addSlot_comm
  neutral_join := none_addSlot

theorem sum_eq_foldl (sizes : List Size) : sizes.sum = sizes.foldl (· + ·) 0 := by
  induction sizes with
  | nil => rfl
  | cons size rest ih =>
    rw [List.sum_cons, List.foldl_cons, pools_add.foldl_start, Size.zero_add, ih]

end Size

namespace Ring

variable (ring : Ring)

/-- The days are summed one after the other. -/
theorem sumBetween_eq_sum (first last shift : Int) :
    ring.sumBetween (first + shift) (last + shift) =
      ((List.range (last - first + 1).toNat).filterMap fun (offset : Nat) =>
        ring.valueAt (first + offset + shift)).sum := by
  have count_eq : last + shift - (first + shift) + 1 = last - first + 1 := by omega
  rw [sumBetween, recorded_eq_filterMap, List.map_filterMap, count_eq]
  congr 1
  apply List.filterMap_congr
  intro offset _
  have index_eq : first + shift + (offset : Int) = first + offset + shift := by omega
  rw [Option.map_map, index_eq]
  exact Option.map_id'

theorem sumBetween_split (first middle last : Int) (lower : first ≤ middle + 1)
    (upper : middle ≤ last) :
    ring.sumBetween first last =
      ring.sumBetween first middle + ring.sumBetween (middle + 1) last := by
  rw [sumBetween, ring.recorded_split first middle last lower upper, List.map_append,
    List.sum_append, sumBetween, sumBetween]

end Ring

/-- Sizes are summed in any order and in any groups, and so are slots, whether they are present or
not: the sum of the groups is the sum of all, even where the megabytes saturate on the way. The sum
over a stretch of days may be cut in two anywhere. -/
theorem sums_ignore_order_and_grouping :
    (∀ left right : Size,
      (left + right).megabytes.toNat =
          min (left.megabytes.toNat + right.megabytes.toNat) (UInt64.size - 1) ∧
        (left + right).lowBytes.toNat =
          (left.lowBytes.toNat + right.lowBytes.toNat) % UInt32.size) ∧
      Pools (fun left right : Size => left + right) 0 ∧
      (∀ left right : Size, Size.addSlot (some left) (some right) = some (left + right)) ∧
      Pools Size.addSlot none ∧
      (∀ (sizes : List Size) (groups : List (List Size)), groups.flatten.Perm sizes →
        (groups.map (·.foldl (· + ·) 0)).foldl (· + ·) 0 = sizes.foldl (· + ·) 0 ∧
          sizes.foldl (· + ·) 0 = sizes.sum) ∧
      (∀ (slots : List (Option Size)) (groups : List (List (Option Size))),
        groups.flatten.Perm slots →
          Size.sumSlots (groups.map Size.sumSlots) = Size.sumSlots slots) ∧
      (∀ (snapshot : Snapshot) (shift first last : Int),
        snapshot.days.sumBetween (first + shift) (last + shift) =
          ((List.range (last - first + 1).toNat).filterMap fun (offset : Nat) =>
            snapshot.days.valueAt (first + offset + shift)).sum) ∧
      ∀ (snapshot : Snapshot) (shift first middle last : Int), first ≤ middle → middle ≤ last →
        snapshot.days.sumBetween (first + shift) (middle + shift) +
            snapshot.days.sumBetween (middle + 1 + shift) (last + shift) =
          snapshot.days.sumBetween (first + shift) (last + shift) := by
  refine ⟨?_, Size.pools_add, fun _ _ => rfl, Size.pools_addSlot, ?_, ?_, ?_, ?_⟩
  · intro left right
    exact ⟨Size.toNat_megabytes_add left right, Size.toNat_lowBytes_add left right⟩
  · intro sizes groups same
    exact ⟨Size.pools_add.foldl_groups sizes groups same, (Size.sum_eq_foldl sizes).symm⟩
  · intro slots groups same
    exact Size.pools_addSlot.foldl_groups slots groups same
  · intro snapshot shift first last
    exact snapshot.days.sumBetween_eq_sum first last shift
  · intro snapshot shift first middle last lower upper
    have split := snapshot.days.sumBetween_split (first + shift) (middle + shift) (last + shift)
      (by omega) (by omega)
    have next : middle + shift + 1 = middle + 1 + shift := by omega
    rw [split, next]

/-- Two sizes that hold all they can, with a small one between them: the megabytes saturate at
different moments in different groups, and the low bytes wrap around. A day without data joins
neither side of a cut. -/
theorem sums_ignore_order_and_grouping_saturated :
    let most : Size := ⟨18446744073709551615, 4294967295⟩
    let days : Ring := [some most, none, some ⟨1, 1⟩]
    ([[⟨1, 1⟩, most], [], [most]].map (·.foldl (· + ·) 0)).foldl (· + ·) 0 =
        [most, ⟨1, 1⟩, most].foldl (· + ·) 0 ∧
      [most, ⟨1, 1⟩, most].foldl (· + ·) 0 = most ∧
      Size.sumSlots ([[none, some most], [some ⟨1, 1⟩]].map Size.sumSlots) =
        Size.sumSlots days ∧
      days.sumBetween (-5 + 4) (-3 + 4) + days.sumBetween (-3 + 1 + 4) (7 + 4) =
        days.sumBetween (-5 + 4) (7 + 4) := by
  intro most days
  obtain ⟨_, _, _, _, sizes, slots, _, stretches⟩ := sums_ignore_order_and_grouping
  refine ⟨(sizes [most, ⟨1, 1⟩, most] _ (by decide)).1, by decide, slots days _ (by decide), ?_⟩
  exact stretches (.ofDays 0 0 days) 4 (-5) (-3) 7 (by decide) (by decide)

end TrafficMeter
