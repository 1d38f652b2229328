import TrafficMeter.Proofs.Json.Spelling
import TrafficMeter.Proofs.Snapshot.Wire
import TrafficMeter.Store.Basic

set_option autoImplicit false

namespace TrafficMeter

open Json (PartSpelling SpellsRecord HasField Decodes)

namespace Size

def spelling (size : Size) : List PartSpelling :=
  [.required "SizeMB" size.megabytes Json.SpellsUInt64,
    .required "SizeLo" size.lowBytes Json.SpellsUInt32]

def Spelled (size : Size) (json : Json) : Prop := SpellsRecord size.spelling json

theorem decodes_ofJson? : Decodes ofJson? Spelled := by
  intro json size
  rw [Spelled, Json.spellsRecord_iff]
  constructor
  · intro decoded
    obtain ⟨given, given_eq, decoded⟩ := Option.bind_eq_some_iff.mp decoded
    refine ⟨given, given_eq, ?_⟩
    split at decoded
    · simp only [↓Json.bind_eq_some_iff, Option.pure_def, Option.some.injEq] at decoded
      obtain ⟨_, megabytes, _, lowBytes, rfl⟩ := decoded
      rw [Json.required?_eq_some_iff Json.decodes_uint64? "SizeMB"] at megabytes
      rw [Json.required?_eq_some_iff Json.decodes_uint32? "SizeLo"] at lowBytes
      exact .cons megabytes (.cons lowBytes .nil)
    · cases decoded
  · rintro ⟨given, given_eq, allows⟩
    obtain _ | ⟨megabytes, _ | ⟨lowBytes, _ | _⟩⟩ := allows
    rw [← Json.required?_eq_some_iff Json.decodes_uint64?] at megabytes
    rw [← Json.required?_eq_some_iff Json.decodes_uint32?] at lowBytes
    have names : size.spelling.map PartSpelling.name = fieldNames := rfl
    rw [names] at given_eq
    rw [ofJson?, given_eq, Option.bind_eq_bind, Option.bind_some]
    simp only [megabytes, lowBytes, Option.bind_eq_bind, Option.bind_some, Option.pure_def]

theorem not_spelled_null (size : Size) : ¬ size.Spelled .null := nofun

end Size

namespace Ring

/-- A slot without a record is null. -/
def Spelled : Ring → Json → Prop := Json.SpellsList (Json.SpellsNullable Size.Spelled)

theorem decodes_ofJson? : Decodes ofJson? Spelled :=
  (Size.decodes_ofJson?.nullable? Size.not_spelled_null).listOf?

end Ring

namespace Snapshot

/-- The parts of a record in order. All but two may be missing where they are zero or empty. -/
def spelling (snapshot : Snapshot) : List PartSpelling :=
  [.optional "ServerID" 0 snapshot.serverId Json.SpellsInt64,
    .required "FirstDay" snapshot.firstDay Json.SpellsInt64,
    .required "DaySlot" snapshot.daySlot Json.SpellsInt64,
    .optional "HourSlot" 0 snapshot.hourSlot Json.SpellsInt64,
    .optional "MinSlot" 0 snapshot.minuteSlot Json.SpellsInt64,
    .optional "SecSlot" 0 snapshot.secondSlot Json.SpellsInt64,
    .optional "BytesPerSeconds" [] snapshot.seconds Ring.Spelled,
    .optional "BytesPerMinutes" [] snapshot.minutes Ring.Spelled,
    .optional "BytesPerHours" [] snapshot.hours Ring.Spelled,
    .optional "BytesPerDays" [] snapshot.days Ring.Spelled,
    .optional "TotalSizeMB" 0 snapshot.total.megabytes Json.SpellsUInt64,
    .optional "TotalSizeLo" 0 snapshot.total.lowBytes Json.SpellsUInt32,
    .optional "CustomSizeMB" 0 snapshot.custom.megabytes Json.SpellsUInt64,
    .optional "CustomSizeLo" 0 snapshot.custom.lowBytes Json.SpellsUInt32,
    .optional "CustomTime" 0 snapshot.customTime Json.SpellsInt64]

def Spelled (snapshot : Snapshot) (json : Json) : Prop := SpellsRecord snapshot.spelling json

theorem map_name_spelling (snapshot : Snapshot) :
    snapshot.spelling.map PartSpelling.name = fieldNames :=
  rfl

section Hold

variable (parts : Parts) (snapshot : Snapshot)

theorem Parts.hold_iff :
    parts.Hold snapshot ↔
      List.Forall₂ PartSpelling.Allows snapshot.spelling parts.toList := by
  have int64 := Json.optional?_eq_some_iff Json.decodes_int64?
  have uint64 := Json.optional?_eq_some_iff Json.decodes_uint64?
  have uint32 := Json.optional?_eq_some_iff Json.decodes_uint32?
  have ring := Json.optional?_eq_some_iff Ring.decodes_ofJson?
  have day := Json.required?_eq_some_iff Json.decodes_int64?
  simp only [spelling, Parts.toList, List.forall₂_cons, List.Forall₂.nil, and_true, ← int64,
    ← uint64, ← uint32, ← ring, ← day]
  constructor
  · intro hold
    exact ⟨hold.serverId, hold.firstDay, hold.daySlot, hold.hourSlot, hold.minuteSlot,
      hold.secondSlot, hold.seconds, hold.minutes, hold.hours, hold.days, hold.totalMegabytes,
      hold.totalLowBytes, hold.customMegabytes, hold.customLowBytes, hold.customTime⟩
  · rintro ⟨serverId, firstDay, daySlot, hourSlot, minuteSlot, secondSlot, seconds, minutes, hours,
      days, totalMegabytes, totalLowBytes, customMegabytes, customLowBytes, customTime⟩
    exact {
      serverId, firstDay, daySlot, hourSlot, minuteSlot, secondSlot, seconds, minutes, hours, days,
      totalMegabytes, totalLowBytes, customMegabytes, customLowBytes, customTime }

theorem Parts.exists_toList (given : List (Option Json))
    (complete : given.length = fieldNames.length) : ∃ parts : Parts, parts.toList = given := by
  match given, complete with
  | [serverId, firstDay, daySlot, hourSlot, minuteSlot, secondSlot, seconds, minutes, hours, days,
      totalMegabytes, totalLowBytes, customMegabytes, customLowBytes, customTime], _ =>
    exact ⟨⟨serverId, firstDay, daySlot, hourSlot, minuteSlot, secondSlot, seconds, minutes, hours,
      days, totalMegabytes, totalLowBytes, customMegabytes, customLowBytes, customTime⟩, rfl⟩

end Hold

theorem decodes_ofJson? : Decodes ofJson? Spelled := by
  intro json snapshot
  rw [ofJson?_eq_some_iff, Spelled, Json.spellsRecord_iff, map_name_spelling]
  constructor
  · rintro ⟨parts, parts_eq, hold⟩
    exact ⟨_, parts_eq, (parts.hold_iff snapshot).mp hold⟩
  · rintro ⟨given, given_eq, allows⟩
    obtain ⟨parts, rfl⟩ := Parts.exists_toList given allows.length_eq.symm
    exact ⟨parts, given_eq, (parts.hold_iff snapshot).mpr allows⟩

/-- What no snapshot is spelled as. -/
inductive Misspelled : Json → Prop
  | missing {fields : List (JsonText × Json)} {name : String}
      (needed : name = "FirstDay" ∨ name = "DaySlot") (absent : HasField fields name none) :
      Misspelled (.object fields)
  | repeated {fields : List (JsonText × Json)} {name : String} (known : name ∈ fieldNames)
      (twice : 2 ≤ (fields.filter (·.1 == some name)).length) : Misspelled (.object fields)
  | short {items : List Json} (tooFew : items.length < 3) : Misspelled (.array items)
  | long {items : List Json} (tooMany : 15 < items.length) : Misspelled (.array items)

section Faults

variable {snapshot : Snapshot} {fields : List (JsonText × Json)} {items : List Json}

/-- Under a known name there is one value, if any. -/
theorem Spelled.givenOnce {name : String} (spelled : snapshot.Spelled (.object fields))
    (known : name ∈ fieldNames) : Json.givenOnce fields name := by
  rw [← snapshot.map_name_spelling] at known
  obtain ⟨part, member, rfl⟩ := List.mem_map.mp known
  exact (((Json.spellsRecord_object_iff _ _).mp spelled).2 part member).1

theorem Spelled.field?_ne_none {name : String} (spelled : snapshot.Spelled (.object fields))
    (needed : name = "FirstDay" ∨ name = "DaySlot") : Json.field? fields name ≠ none := by
  have listed : ∃ part ∈ snapshot.spelling, part.name = name ∧ ¬ part.Omits := by
    rcases needed with rfl | rfl
    · exact ⟨_, .tail _ (.head _), rfl, id⟩
    · exact ⟨_, .tail _ (.tail _ (.head _)), rfl, id⟩
  obtain ⟨part, member, rfl, fixed⟩ := listed
  intro absent
  have allows := (((Json.spellsRecord_object_iff _ _).mp spelled).2 part member).2
  rw [absent] at allows
  exact fixed allows

theorem Spelled.length_items (spelled : snapshot.Spelled (.array items)) :
    3 ≤ items.length ∧ items.length ≤ 15 := by
  obtain _ | ⟨room, given⟩ := spelled
  refine ⟨?_, room⟩
  by_contra short
  have daySlot := given 2 _ rfl
  rw [List.getElem?_eq_none (by omega)] at daySlot
  exact daySlot

theorem not_spelled_of_misspelled {json : Json} (misspelled : Misspelled json) :
    ¬ snapshot.Spelled json := by
  intro spelled
  cases misspelled with
  | missing needed absent =>
    exact spelled.field?_ne_none needed ((Json.hasField_iff _ _ _).mp absent).2
  | repeated known twice =>
    have once := spelled.givenOnce known
    rw [Json.givenOnce, decide_eq_true_eq] at once
    omega
  | short tooFew =>
    have bounds := spelled.length_items
    omega
  | long tooMany =>
    have bounds := spelled.length_items
    omega

theorem ofJson?_of_misspelled {json : Json} (misspelled : Misspelled json) :
    ofJson? json = none := by
  rw [Option.eq_none_iff_forall_ne_some]
  intro snapshot decoded
  exact not_spelled_of_misspelled misspelled ((decodes_ofJson? json snapshot).mp decoded)

end Faults

/-- The spellings of a file are lists of the spellings of its snapshots. -/
theorem recordsOf_eq_ok_iff {text : String} {documents : List Json}
    (parsed : Json.parse? text = some (.array documents)) (snapshots : List Snapshot) :
    Store.recordsOf (some text) = .ok snapshots ↔
      List.Forall₂ Spelled snapshots documents := by
  have decoded : listOfText? text = documents.mapM ofJson? := by
    rw [listOfText?, parsed, Option.bind_some, Json.listOf?]
  rw [← decodes_ofJson?.mapM_eq_some_iff, ← decoded, Store.recordsOf]
  cases listOfText? text <;> simp

theorem recordsOf_of_misspelled {text : String} {documents : List Json}
    (parsed : Json.parse? text = some (.array documents))
    (misspelled : ∃ document ∈ documents, Misspelled document) :
    Store.recordsOf (some text) = .error .undecodable := by
  obtain ⟨document, member, misspelled⟩ := misspelled
  cases records : Store.recordsOf (some text) with
  | ok snapshots =>
    have spelled := (recordsOf_eq_ok_iff parsed snapshots).mp records
    obtain ⟨position, inside, rfl⟩ := List.getElem_of_mem member
    have sized : position < snapshots.length := by rw [spelled.length_eq]; exact inside
    exact absurd (spelled.get sized inside) (not_spelled_of_misspelled misspelled)
  | error fault =>
    rw [Store.recordsOf] at records
    split at records <;> cases records
    rfl

/-- All spellings of a snapshot are decoded to it, and nothing else is: objects with their fields
in any order and strange fields among them, arrays that break off where only defaults would follow,
and sizes in either form. A document that lacks a needed field, repeats a known one or is too short
or too long an array makes its whole file undecodable. -/
theorem spellings_decode_alike :
    (∀ (json : Json) (snapshot : Snapshot),
        ofJson? json = some snapshot ↔ snapshot.Spelled json) ∧
      (∀ json : Json, Misspelled json → ofJson? json = none) ∧
      ∀ (text : String) (documents : List Json), Json.parse? text = some (.array documents) →
        (∀ snapshots : List Snapshot, Store.recordsOf (some text) = .ok snapshots ↔
          List.Forall₂ Spelled snapshots documents) ∧
        ((∃ document ∈ documents, Misspelled document) →
          Store.recordsOf (some text) = .error .undecodable) := by
  refine ⟨decodes_ofJson?, fun _ => ofJson?_of_misspelled, ?_⟩
  intro text documents parsed
  exact ⟨recordsOf_eq_ok_iff parsed, recordsOf_of_misspelled parsed⟩

/-- A record as an object, with its fields out of order and a strange one in front. -/
def shuffledRecord : Json :=
  .ofFields [("Note", .array [.null, .ofFields [("DaySlot", .null)]]), ("DaySlot", .int 1),
    ("CustomTime", .int 0),
    ("BytesPerDays", .array [.null, .array [.int 0, .int 5],
      .ofFields [("SizeLo", .int 2), ("Unit", .ofString "B"), ("SizeMB", .int 1)]]),
    ("FirstDay", .int (-7))]

/-- The same record as an array. -/
def listedRecord : Json :=
  .array [.int 0, .int (-7), .int 1, .int 0, .int 0, .int 0, .array [], .array [], .array [],
    .array [.null, .ofFields [("SizeMB", .int 0), ("SizeLo", .int 5)], .array [.int 1, .int 2]]]

theorem spellings_decode_alike_shuffled_and_listed :
    ∃ snapshot : Snapshot, snapshot.firstDay = -7 ∧
      snapshot.days = [none, some ⟨0, 5⟩, some ⟨1, 2⟩] ∧
      snapshot.Spelled shuffledRecord ∧ snapshot.Spelled listedRecord ∧
      Store.recordsOf (some (Json.array [shuffledRecord, listedRecord]).indentedText) =
        .ok [snapshot, snapshot] ∧
      Store.recordsOf (some (Json.array [listedRecord, .array [.int 0, .int 1]]).compactText) =
        .error .undecodable := by
  obtain ⟨decodes, _, files⟩ := spellings_decode_alike
  have shuffled := (decodes shuffledRecord ⟨0, -7, 1, 0, 0, 0, [], [], [],
    [none, some ⟨0, 5⟩, some ⟨1, 2⟩], 0, 0, 0⟩).mp (by decide)
  have listed := (decodes listedRecord ⟨0, -7, 1, 0, 0, 0, [], [], [],
    [none, some ⟨0, 5⟩, some ⟨1, 2⟩], 0, 0, 0⟩).mp (by decide)
  have plain : shuffledRecord.IsPlain ∧ listedRecord.IsPlain := by
    simp [shuffledRecord, listedRecord, Json.IsPlain, Json.ItemsPlain, Json.FieldsPlain,
      Json.ofFields, Json.ofString]
  refine ⟨_, rfl, rfl, shuffled, listed, ?_, ?_⟩
  · have parsed := Json.parse?_render .indented (.array [shuffledRecord, listedRecord])
      ⟨plain.1, plain.2, trivial⟩
    exact ((files _ _ parsed).1 _).mpr (.cons shuffled (.cons listed .nil))
  · have parsed := Json.parse?_render .compact (.array [listedRecord, .array [.int 0, .int 1]])
      ⟨plain.2, ⟨trivial, trivial, trivial⟩, trivial⟩
    apply (files _ _ parsed).2
    exact ⟨_, .tail _ (.head _), .short (by decide)⟩

end Snapshot

end TrafficMeter
