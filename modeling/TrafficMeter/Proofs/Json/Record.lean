import Mathlib.Data.List.Forall2
import Mathlib.Data.List.Nodup
import TrafficMeter.Json.Decode
import TrafficMeter.Proofs.Json.RoundTrip

set_option autoImplicit false

namespace TrafficMeter.Json

section Plain

theorem isPlain_ofFields (fields : List (String × Json))
    (plain : ∀ field ∈ fields, field.2.IsPlain) : (ofFields fields).IsPlain := by
  change FieldsPlain _
  induction fields with
  | nil => trivial
  | cons field rest ih =>
    obtain ⟨first, others⟩ := List.forall_mem_cons.mp plain
    exact ⟨rfl, first, ih others⟩

theorem isPlain_ofList {α : Type} (encode : α → Json) (plain : ∀ value, (encode value).IsPlain)
    (values : List α) : (ofList encode values).IsPlain := by
  change ItemsPlain _
  induction values with
  | nil => trivial
  | cons value rest ih => exact ⟨plain value, ih⟩

theorem isPlain_ofOption {α : Type} (encode : α → Json) (plain : ∀ value, (encode value).IsPlain)
    (value : Option α) : (ofOption encode value).IsPlain := by
  cases value with
  | none => trivial
  | some value => exact plain value

end Plain

section Sound

variable (depth : Nat)

theorem isSound_int (value : Int) :
    (int value).isSound depth = decide (value.natAbs < doubleOverflow) := by
  cases depth <;> rfl

theorem isSound_text (value : JsonText) : (text value).isSound depth = value.isSome := by
  cases depth <;> rfl

theorem isSound_object (fields : List (JsonText × Json)) :
    (object fields).isSound (depth + 1) =
      fields.all fun (key, value) => key.isSome && isSound depth value :=
  rfl

end Sound

section Numbers

/-- An integer of 64 bits with a sign. -/
def IsInt64 (value : Int) : Prop :=
  Int64.minValue.toInt ≤ value ∧ value ≤ Int64.maxValue.toInt

instance (value : Int) : Decidable (IsInt64 value) :=
  inferInstanceAs (Decidable (_ ∧ _))

theorem intBetween?_eq_some_iff (least greatest : Int) (json : Json) (value : Int) :
    intBetween? least greatest json = some value ↔
      json = .int value ∧ least ≤ value ∧ value ≤ greatest := by
  cases json with
  | int number =>
    simp only [intBetween?, Option.ite_none_right_eq_some, Option.some.injEq, int.injEq]
    constructor
    · rintro ⟨fits, rfl⟩
      exact ⟨rfl, fits⟩
    · rintro ⟨rfl, fits⟩
      exact ⟨fits, rfl⟩
  | null | bool _ | real _ | text _ | array _ | object _ => simp [intBetween?]

theorem int64?_int (value : Int) (fits : IsInt64 value) : int64? (.int value) = some value :=
  (intBetween?_eq_some_iff _ _ _ _).mpr ⟨rfl, fits⟩

theorem isInt64_of_int64? (json : Json) (value : Int) (decoded : int64? json = some value) :
    IsInt64 value :=
  ((intBetween?_eq_some_iff _ _ _ _).mp decoded).2

/-- The integers from zero are those of a number of values. -/
theorem intBetween?_zero_eq_some_iff (count : Nat) (json : Json) (value : Int) :
    intBetween? 0 ((count : Int) - 1) json = some value ↔
      ∃ number : Nat, number < count ∧ json = .int number ∧ value = number := by
  rw [intBetween?_eq_some_iff]
  constructor
  · rintro ⟨rfl, lower, upper⟩
    obtain ⟨number, rfl⟩ := Int.eq_ofNat_of_zero_le lower
    exact ⟨number, by omega, rfl, rfl⟩
  · rintro ⟨number, small, rfl, rfl⟩
    exact ⟨rfl, by omega, by omega⟩

theorem uint64?_eq_some_iff (json : Json) (word : UInt64) :
    uint64? json = some word ↔ json = .int word.toNat := by
  rw [uint64?, Option.map_eq_some_iff]
  simp only [intBetween?_zero_eq_some_iff]
  constructor
  · rintro ⟨_, ⟨number, small, rfl, rfl⟩, rfl⟩
    rw [Int.toNat_natCast, UInt64.toNat_ofNat_of_lt' small]
  · rintro rfl
    refine ⟨_, ⟨word.toNat, word.toNat_lt, rfl, rfl⟩, ?_⟩
    rw [Int.toNat_natCast, UInt64.ofNat_toNat]

theorem uint32?_eq_some_iff (json : Json) (word : UInt32) :
    uint32? json = some word ↔ json = .int word.toNat := by
  rw [uint32?, Option.map_eq_some_iff]
  simp only [intBetween?_zero_eq_some_iff]
  constructor
  · rintro ⟨_, ⟨number, small, rfl, rfl⟩, rfl⟩
    rw [Int.toNat_natCast, UInt32.toNat_ofNat_of_lt' small]
  · rintro rfl
    refine ⟨_, ⟨word.toNat, word.toNat_lt, rfl, rfl⟩, ?_⟩
    rw [Int.toNat_natCast, UInt32.ofNat_toNat]

theorem uint64?_int (word : UInt64) : uint64? (.int word.toNat) = some word :=
  (uint64?_eq_some_iff _ word).mpr rfl

theorem uint32?_int (word : UInt32) : uint32? (.int word.toNat) = some word :=
  (uint32?_eq_some_iff _ word).mpr rfl

theorem isInt64_of_required? (part : Option Json) (value : Int)
    (decoded : required? int64? part = some value) : IsInt64 value := by
  cases part with
  | none => cases decoded
  | some json => exact isInt64_of_int64? json value decoded

/-- A part that may be missing is zero then, which has 64 bits too. -/
theorem isInt64_of_optional? (part : Option Json) (value : Int)
    (decoded : optional? 0 int64? part = some value) : IsInt64 value := by
  cases part with
  | none =>
    cases decoded
    decide
  | some json => exact isInt64_of_int64? json value decoded

end Numbers

section Lists

variable {α : Type} (encode : α → Json) (decode : Json → Option α)

theorem mapM_eq_some_iff (items : List Json) (values : List α) :
    items.mapM decode = some values ↔
      List.Forall₂ (fun value item => decode item = some value) values items := by
  induction items generalizing values with
  | nil =>
    rw [List.mapM_nil, List.forall₂_nil_right_iff]
    exact Option.some_inj.trans eq_comm
  | cons item rest ih =>
    simp only [List.mapM_cons, Option.bind_eq_bind, Option.bind_eq_some_iff, ih, Option.pure_def,
      Option.some.injEq, List.forall₂_cons_right_iff]
    constructor
    · rintro ⟨value, first, others, further, rfl⟩
      exact ⟨value, others, first, further, rfl⟩
    · rintro ⟨value, others, first, further, rfl⟩
      exact ⟨value, first, others, further, rfl⟩

theorem listOf?_ofList (values : List α)
    (decodes : ∀ value ∈ values, decode (encode value) = some value) :
    listOf? decode (ofList encode values) = some values := by
  rw [ofList, listOf?, mapM_eq_some_iff, List.forall₂_map_right_iff, List.forall₂_same]
  exact decodes

/-- Whatever was decoded of a list was decoded of one of its items. -/
theorem exists_item_of_listOf? (json : Json) (values : List α)
    (decoded : listOf? decode json = some values) (value : α) (member : value ∈ values) :
    ∃ item, decode item = some value := by
  cases json with
  | array items =>
    have paired := (mapM_eq_some_iff decode items values).mp decoded
    obtain ⟨position, inside, rfl⟩ := List.getElem_of_mem member
    exact ⟨_, paired.get inside (Nat.lt_of_lt_of_eq inside paired.length_eq)⟩
  | null | bool _ | int _ | real _ | text _ | object _ => cases decoded

theorem nullable?_ofOption (solid : ∀ value, encode value ≠ .null)
    (decodes : ∀ value, decode (encode value) = some value) (value : Option α) :
    nullable? decode (ofOption encode value) = some value := by
  cases value with
  | none => rfl
  | some value =>
    rw [ofOption, nullable?, decodes value, Option.map_some]
    exact solid value

end Lists

section Records

/-- For decoders of many parts: as a rewrite from the outside in, it opens each step once. -/
theorem bind_eq_some_iff {α β : Type} (first : Option α) (next : α → Option β) (result : β) :
    (first >>= next) = some result ↔ ∃ value, first = some value ∧ next value = some result :=
  Option.bind_eq_some_iff

theorem map_field?_zip (names : List String) (values : List Json) (distinct : names.Nodup)
    (complete : values.length = names.length) :
    names.map (field? ((names.zip values).map fun (key, value) => (some key, value))) =
      values.map some := by
  induction names generalizing values with
  | nil =>
    cases values with
    | nil => rfl
    | cons => cases complete
  | cons name names ih =>
    cases values with
    | nil => cases complete
    | cons value values =>
      obtain ⟨fresh, distinct⟩ := List.nodup_cons.mp distinct
      have others := ih values distinct (Nat.succ.inj complete)
      rw [List.map_cons, List.zip_cons_cons, List.map_cons, List.map_cons, field?,
        List.lookup_cons_self, ← others]
      congr 1
      apply List.map_congr_left
      intro other member
      have differs : (some other == some name) = false := by
        rw [beq_eq_false_iff_ne]
        rintro same
        cases same
        exact fresh member
      rw [field?, field?, List.lookup_cons, differs]

/-- A record that was written in full is read part by part. -/
theorem record?_ofFields (names : List String) (values : List Json) (distinct : names.Nodup)
    (complete : values.length = names.length) :
    record? names (ofFields (names.zip values)) = some (values.map some) := by
  have named : ((names.zip values).map fun (key, value) => (some key, value)).all (·.1.isSome) := by
    simp only [List.all_map, List.all_eq_true, Function.comp_apply, Option.isSome_some,
      implies_true]
  have keys : ((names.zip values).map fun (key, value) => (some key, value)).map Prod.fst =
      names.map some := by
    have paired := List.map_fst_zip (Nat.le_of_eq complete.symm)
    calc _ = ((names.zip values).map Prod.fst).map some := by
          rw [List.map_map, List.map_map]
          rfl
      _ = names.map some := by rw [paired]
  have once : names.all
      (givenOnce ((names.zip values).map fun (key, value) => (some key, value))) := by
    rw [List.all_eq_true]
    intro name _
    have counted := List.nodup_iff_count_le_one.mp
      (distinct.map fun _ _ => Option.some.inj) (some name)
    rw [← keys, List.count, List.countP_map, List.countP_eq_length_filter] at counted
    rw [givenOnce, decide_eq_true_eq]
    exact counted
  rw [ofFields, record?, if_pos ⟨named, once⟩, map_field?_zip names values distinct complete]

end Records

end TrafficMeter.Json
