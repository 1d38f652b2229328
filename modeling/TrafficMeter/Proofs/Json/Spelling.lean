import TrafficMeter.Proofs.Json.Record

set_option autoImplicit false

namespace TrafficMeter.Json

section Spellings

variable {α : Type}

/-- The decoder takes in the spellings of each value, and nothing else. -/
def Decodes (decode : Json → Option α) (spells : α → Json → Prop) : Prop :=
  ∀ (json : Json) (value : α), decode json = some value ↔ spells value json

def SpellsInt64 (value : Int) (json : Json) : Prop := json = .int value ∧ IsInt64 value

def SpellsUInt64 (word : UInt64) (json : Json) : Prop := json = .int word.toNat

def SpellsUInt32 (word : UInt32) (json : Json) : Prop := json = .int word.toNat

def SpellsNullable (spells : α → Json → Prop) : Option α → Json → Prop
  | none, json => json = .null
  | some value, json => spells value json

def SpellsList (spells : α → Json → Prop) (values : List α) (json : Json) : Prop :=
  ∃ items, json = .array items ∧ List.Forall₂ spells values items

end Spellings

section Records

/-- How one part of a record is spelled. -/
structure PartSpelling where
  name : String
  /-- Whether the part may be missing. -/
  Omits : Prop
  Spells : Json → Prop

namespace PartSpelling

variable {α : Type}

def required (name : String) (value : α) (spells : α → Json → Prop) : PartSpelling :=
  ⟨name, False, spells value⟩

def optional (name : String) (default value : α) (spells : α → Json → Prop) : PartSpelling :=
  ⟨name, value = default, spells value⟩

def Allows (part : PartSpelling) : Option Json → Prop
  | none => part.Omits
  | some json => part.Spells json

end PartSpelling

/-- The object has the value under the name, and once; without a value it has no such name. -/
def HasField (fields : List (JsonText × Json)) (name : String) (value : Option Json) : Prop :=
  (fields.filter (·.1 == some name)).map Prod.snd = value.toList

/-- A record is an object that gives its parts under their names in any order, with any other
fields among them, or an array of the parts in their own order, which may break off early. -/
inductive SpellsRecord (parts : List PartSpelling) : Json → Prop
  | object {fields : List (JsonText × Json)} (texts : ∀ field ∈ fields, field.1.isSome)
      (given : ∀ part ∈ parts, ∃ value, HasField fields part.name value ∧ part.Allows value) :
      SpellsRecord parts (.object fields)
  | array {items : List Json} (room : items.length ≤ parts.length)
      (given : ∀ (position : Nat) (part : PartSpelling), parts[position]? = some part →
        part.Allows items[position]?) :
      SpellsRecord parts (.array items)

end Records

section Numbers

theorem decodes_int64? : Decodes int64? SpellsInt64 :=
  intBetween?_eq_some_iff _ _

theorem decodes_uint64? : Decodes uint64? SpellsUInt64 :=
  uint64?_eq_some_iff

theorem decodes_uint32? : Decodes uint32? SpellsUInt32 :=
  uint32?_eq_some_iff

end Numbers

section Decoders

variable {α : Type} {decode : Json → Option α} {spells : α → Json → Prop}

theorem Decodes.nullable? (decodes : Decodes decode spells)
    (solid : ∀ value, ¬ spells value .null) :
    Decodes (nullable? decode) (SpellsNullable spells) := by
  intro json value
  -- Null is no value, whatever the decoder itself would make of it.
  by_cases null : json = .null
  · subst null
    cases value with
    | none => exact iff_of_true rfl rfl
    | some value => exact iff_of_false nofun (solid value)
  · have decoded : Json.nullable? decode json = (decode json).map some := by
      cases json <;> first | rfl | exact absurd rfl null
    rw [decoded, Option.map_eq_some_iff]
    cases value with
    | none => exact iff_of_false (by simp) null
    | some value =>
      simp only [Option.some.injEq, exists_eq_right]
      exact decodes json value

theorem Decodes.mapM_eq_some_iff (decodes : Decodes decode spells) (items : List Json)
    (values : List α) : items.mapM decode = some values ↔ List.Forall₂ spells values items := by
  have alike : (fun value item => decode item = some value) = spells :=
    funext₂ fun value item => propext (decodes item value)
  rw [Json.mapM_eq_some_iff, alike]

theorem Decodes.listOf? (decodes : Decodes decode spells) :
    Decodes (listOf? decode) (SpellsList spells) := by
  intro json values
  cases json with
  | array items =>
    rw [Json.listOf?, decodes.mapM_eq_some_iff]
    simp [SpellsList]
  | null | bool _ | int _ | real _ | text _ | object _ => simp [Json.listOf?, SpellsList]

variable (decodes : Decodes decode spells) (name : String) (value : α) (given : Option Json)

include decodes

theorem required?_eq_some_iff :
    required? decode given = some value ↔
      (PartSpelling.required name value spells).Allows given := by
  cases given with
  | none => exact iff_of_false nofun id
  | some json => exact decodes json value

theorem optional?_eq_some_iff (default : α) :
    optional? default decode given = some value ↔
      (PartSpelling.optional name default value spells).Allows given := by
  cases given with
  | none => exact Option.some_inj.trans eq_comm
  | some json => exact decodes json value

end Decoders

section Records

theorem field?_eq_head? (fields : List (JsonText × Json)) (name : String) :
    field? fields name = ((fields.filter (·.1 == some name)).map Prod.snd).head? := by
  induction fields with
  | nil => rfl
  | cons field rest ih =>
    rw [field?, List.lookup_cons, List.filter_cons, BEq.comm]
    cases field.1 == some name
    · exact ih
    · rfl

theorem hasField_iff (fields : List (JsonText × Json)) (name : String) (value : Option Json) :
    HasField fields name value ↔ givenOnce fields name ∧ field? fields name = value := by
  rw [field?_eq_head?, givenOnce, HasField, decide_eq_true_eq,
    ← List.length_map (f := Prod.snd)]
  generalize (fields.filter (·.1 == some name)).map Prod.snd = found
  cases value <;> rcases found with _ | ⟨_, _ | _⟩ <;> simp

variable (parts : List PartSpelling)

theorem spellsRecord_object_iff (fields : List (JsonText × Json)) :
    SpellsRecord parts (.object fields) ↔
      (∀ field ∈ fields, field.1.isSome) ∧ ∀ part ∈ parts,
        givenOnce fields part.name ∧ part.Allows (field? fields part.name) := by
  constructor
  · rintro (⟨texts, given⟩ | _)
    refine ⟨texts, fun part member => ?_⟩
    obtain ⟨value, found, allows⟩ := given part member
    obtain ⟨once, rfl⟩ := (hasField_iff fields part.name value).mp found
    exact ⟨once, allows⟩
  · rintro ⟨texts, given⟩
    refine .object texts fun part member => ?_
    obtain ⟨once, allows⟩ := given part member
    exact ⟨_, (hasField_iff fields part.name _).mpr ⟨once, rfl⟩, allows⟩

/-- The spellings of a record are the documents that it is taken apart from. -/
theorem spellsRecord_iff (json : Json) :
    SpellsRecord parts json ↔
      ∃ given, json.record? (parts.map PartSpelling.name) = some given ∧
        List.Forall₂ PartSpelling.Allows parts given := by
  cases json with
  | object fields =>
    rw [spellsRecord_object_iff, record?]
    simp only [Option.ite_none_right_eq_some, Option.some.injEq, List.all_eq_true, List.mem_map,
      forall_exists_index, and_imp, forall_apply_eq_imp_iff₂]
    constructor
    · rintro ⟨texts, given⟩
      refine ⟨_, ⟨⟨texts, fun part member => (given part member).1⟩, rfl⟩, ?_⟩
      rw [List.map_map, List.forall₂_map_right_iff, List.forall₂_same]
      exact fun part member => (given part member).2
    · rintro ⟨_, ⟨⟨texts, once⟩, rfl⟩, allows⟩
      rw [List.map_map, List.forall₂_map_right_iff, List.forall₂_same] at allows
      exact ⟨texts, fun part member => ⟨once part member, allows part member⟩⟩
  | array items =>
    simp only [record?, List.length_map, Option.ite_none_right_eq_some, Option.some.injEq]
    constructor
    · rintro (_ | ⟨room, given⟩)
      refine ⟨_, ⟨room, rfl⟩, ?_⟩
      rw [List.forall₂_iff_get]
      refine ⟨by simp, fun position inside _ => ?_⟩
      simpa using given position _ (List.getElem?_eq_getElem inside)
    · rintro ⟨_, ⟨room, rfl⟩, allows⟩
      rw [List.forall₂_iff_get] at allows
      refine .array room fun position part found => ?_
      obtain ⟨inside, rfl⟩ := List.getElem?_eq_some_iff.mp found
      simpa using allows.2 position inside (by simpa using inside)
  | null | bool _ | int _ | real _ | text _ =>
    constructor
    · intro spelled
      cases spelled
    · rintro ⟨_, taken, _⟩
      cases taken

end Records

end TrafficMeter.Json
