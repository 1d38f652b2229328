import Mathlib.Tactic.MkIffOfInductiveProp
import TrafficMeter.Proofs.Json.Record
import TrafficMeter.Snapshot.Codec

set_option autoImplicit false

namespace TrafficMeter

theorem Size.isPlain_toJson (size : Size) : size.toJson.IsPlain :=
  ⟨rfl, trivial, rfl, trivial, trivial⟩

theorem Size.ofJson?_toJson (size : Size) : Size.ofJson? size.toJson = some size := by
  have parts : size.toJson.record? Size.fieldNames =
      some [some (.int size.megabytes.toNat), some (.int size.lowBytes.toNat)] :=
    Json.record?_ofFields Size.fieldNames [.int size.megabytes.toNat, .int size.lowBytes.toNat]
      (by decide) rfl
  rw [Size.ofJson?, parts]
  simp only [Option.bind_eq_bind, Option.bind_some, Json.required?, Json.uint64?_int,
    Json.uint32?_int, Option.pure_def]

theorem Ring.isPlain_toJson (ring : Ring) : ring.toJson.IsPlain :=
  Json.isPlain_ofList _ (Json.isPlain_ofOption _ Size.isPlain_toJson) ring

theorem Ring.ofJson?_toJson (ring : Ring) : Ring.ofJson? ring.toJson = some ring := by
  apply Json.listOf?_ofList
  intro slot _
  exact Json.nullable?_ofOption Size.toJson Size.ofJson? (fun _ => nofun) Size.ofJson?_toJson slot

namespace Snapshot

/-- The numbers that a record holds as 64 bits with a sign. -/
@[mk_iff] structure InRange (snapshot : Snapshot) : Prop where
  serverId : Json.IsInt64 snapshot.serverId
  firstDay : Json.IsInt64 snapshot.firstDay
  daySlot : Json.IsInt64 snapshot.daySlot
  hourSlot : Json.IsInt64 snapshot.hourSlot
  minuteSlot : Json.IsInt64 snapshot.minuteSlot
  secondSlot : Json.IsInt64 snapshot.secondSlot
  customTime : Json.IsInt64 snapshot.customTime

instance (snapshot : Snapshot) : Decidable snapshot.InRange :=
  decidable_of_iff' _ (inRange_iff snapshot)

theorem InRange.resetCustom {snapshot : Snapshot} (inRange : snapshot.InRange) (now : Int)
    (fits : Json.IsInt64 now) : (snapshot.resetCustom now).InRange :=
  { inRange with customTime := fits }

theorem InRange.withCustom {snapshot : Snapshot} (inRange : snapshot.InRange) (custom : Size) :
    { snapshot with custom }.InRange :=
  { inRange with }

theorem isPlain_toJson (snapshot : Snapshot) : snapshot.toJson.IsPlain := by
  apply Json.isPlain_ofFields
  have plain : ∀ value ∈ snapshot.fieldValues, value.IsPlain := by
    simp only [fieldValues, List.forall_mem_cons, List.not_mem_nil, false_imp_iff, implies_true,
      Json.IsPlain, Ring.isPlain_toJson, and_self]
  intro field member
  exact plain field.2 (List.of_mem_zip member).2

/-- The parts of a record, as far as they are given. -/
structure Parts where
  serverId : Option Json
  firstDay : Option Json
  daySlot : Option Json
  hourSlot : Option Json
  minuteSlot : Option Json
  secondSlot : Option Json
  seconds : Option Json
  minutes : Option Json
  hours : Option Json
  days : Option Json
  totalMegabytes : Option Json
  totalLowBytes : Option Json
  customMegabytes : Option Json
  customLowBytes : Option Json
  customTime : Option Json

/-- In the order of the field names. -/
def Parts.toList (parts : Parts) : List (Option Json) :=
  [parts.serverId, parts.firstDay, parts.daySlot, parts.hourSlot, parts.minuteSlot,
    parts.secondSlot, parts.seconds, parts.minutes, parts.hours, parts.days, parts.totalMegabytes,
    parts.totalLowBytes, parts.customMegabytes, parts.customLowBytes, parts.customTime]

/-- Each part holds what the snapshot has, or is missing where that is zero or empty. -/
structure Parts.Hold (parts : Parts) (snapshot : Snapshot) : Prop where
  serverId : Json.optional? 0 Json.int64? parts.serverId = some snapshot.serverId
  firstDay : Json.required? Json.int64? parts.firstDay = some snapshot.firstDay
  daySlot : Json.required? Json.int64? parts.daySlot = some snapshot.daySlot
  hourSlot : Json.optional? 0 Json.int64? parts.hourSlot = some snapshot.hourSlot
  minuteSlot : Json.optional? 0 Json.int64? parts.minuteSlot = some snapshot.minuteSlot
  secondSlot : Json.optional? 0 Json.int64? parts.secondSlot = some snapshot.secondSlot
  seconds : Json.optional? [] Ring.ofJson? parts.seconds = some snapshot.seconds
  minutes : Json.optional? [] Ring.ofJson? parts.minutes = some snapshot.minutes
  hours : Json.optional? [] Ring.ofJson? parts.hours = some snapshot.hours
  days : Json.optional? [] Ring.ofJson? parts.days = some snapshot.days
  totalMegabytes : Json.optional? 0 Json.uint64? parts.totalMegabytes =
    some snapshot.total.megabytes
  totalLowBytes : Json.optional? 0 Json.uint32? parts.totalLowBytes = some snapshot.total.lowBytes
  customMegabytes : Json.optional? 0 Json.uint64? parts.customMegabytes =
    some snapshot.custom.megabytes
  customLowBytes : Json.optional? 0 Json.uint32? parts.customLowBytes =
    some snapshot.custom.lowBytes
  customTime : Json.optional? 0 Json.int64? parts.customTime = some snapshot.customTime

/-- What is decoded from a record is decoded part by part. -/
theorem ofJson?_eq_some_iff (json : Json) (snapshot : Snapshot) :
    ofJson? json = some snapshot ↔
      ∃ parts : Parts, json.record? fieldNames = some parts.toList ∧ parts.Hold snapshot := by
  constructor
  · intro decoded
    obtain ⟨parts, parts_eq, decoded⟩ := Option.bind_eq_some_iff.mp decoded
    split at decoded
    · simp only [↓Json.bind_eq_some_iff, Option.pure_def, Option.some.injEq] at decoded
      obtain ⟨_, serverId, _, firstDay, _, daySlot, _, hourSlot, _, minuteSlot, _, secondSlot, _,
        seconds, _, minutes, _, hours, _, days, _, totalMegabytes, _, totalLowBytes, _,
        customMegabytes, _, customLowBytes, _, customTime, rfl⟩ := decoded
      exact ⟨⟨_, _, _, _, _, _, _, _, _, _, _, _, _, _, _⟩, parts_eq, {
        serverId, firstDay, daySlot, hourSlot, minuteSlot, secondSlot, seconds, minutes, hours,
        days, totalMegabytes, totalLowBytes, customMegabytes, customLowBytes, customTime }⟩
    · cases decoded
  · rintro ⟨parts, parts_eq, hold⟩
    rw [ofJson?, parts_eq, Option.bind_eq_bind, Option.bind_some]
    simp only [Parts.toList, ↓Json.bind_eq_some_iff, Option.pure_def, Option.some.injEq]
    exact ⟨_, hold.serverId, _, hold.firstDay, _, hold.daySlot, _, hold.hourSlot, _,
      hold.minuteSlot, _, hold.secondSlot, _, hold.seconds, _, hold.minutes, _, hold.hours, _,
      hold.days, _, hold.totalMegabytes, _, hold.totalLowBytes, _, hold.customMegabytes, _,
      hold.customLowBytes, _, hold.customTime, rfl⟩

theorem ofJson?_toJson (snapshot : Snapshot) (inRange : snapshot.InRange) :
    ofJson? snapshot.toJson = some snapshot := by
  rw [ofJson?_eq_some_iff]
  refine ⟨⟨_, _, _, _, _, _, _, _, _, _, _, _, _, _, _⟩,
    Json.record?_ofFields fieldNames snapshot.fieldValues (by decide) rfl, ?_⟩
  exact {
    serverId := Json.int64?_int _ inRange.serverId
    firstDay := Json.int64?_int _ inRange.firstDay
    daySlot := Json.int64?_int _ inRange.daySlot
    hourSlot := Json.int64?_int _ inRange.hourSlot
    minuteSlot := Json.int64?_int _ inRange.minuteSlot
    secondSlot := Json.int64?_int _ inRange.secondSlot
    seconds := Ring.ofJson?_toJson _
    minutes := Ring.ofJson?_toJson _
    hours := Ring.ofJson?_toJson _
    days := Ring.ofJson?_toJson _
    totalMegabytes := Json.uint64?_int _
    totalLowBytes := Json.uint32?_int _
    customMegabytes := Json.uint64?_int _
    customLowBytes := Json.uint32?_int _
    customTime := Json.int64?_int _ inRange.customTime }

theorem inRange_of_ofJson? (json : Json) (snapshot : Snapshot)
    (decoded : ofJson? json = some snapshot) : snapshot.InRange := by
  rw [ofJson?_eq_some_iff] at decoded
  obtain ⟨parts, -, hold⟩ := decoded
  exact {
    serverId := Json.isInt64_of_optional? _ _ hold.serverId
    firstDay := Json.isInt64_of_required? _ _ hold.firstDay
    daySlot := Json.isInt64_of_required? _ _ hold.daySlot
    hourSlot := Json.isInt64_of_optional? _ _ hold.hourSlot
    minuteSlot := Json.isInt64_of_optional? _ _ hold.minuteSlot
    secondSlot := Json.isInt64_of_optional? _ _ hold.secondSlot
    customTime := Json.isInt64_of_optional? _ _ hold.customTime }

/-- A list of snapshots is read back from the text that it is written to. -/
theorem listOfText?_listText (snapshots : List Snapshot)
    (inRange : ∀ snapshot ∈ snapshots, snapshot.InRange) :
    listOfText? (listText snapshots) = some snapshots := by
  have plain := Json.isPlain_ofList toJson isPlain_toJson snapshots
  have parsed := Json.parse?_render .indented _ plain
  rw [listOfText?, listText, Json.indentedText, parsed, Option.bind_some]
  exact Json.listOf?_ofList toJson ofJson? snapshots fun snapshot member =>
    ofJson?_toJson snapshot (inRange snapshot member)

/-- No text holds a number beyond the range of its field. -/
theorem inRange_of_listOfText? (text : String) (snapshots : List Snapshot)
    (decoded : listOfText? text = some snapshots) : ∀ snapshot ∈ snapshots, snapshot.InRange := by
  intro snapshot member
  obtain ⟨json, _, decoded⟩ := Option.bind_eq_some_iff.mp decoded
  obtain ⟨item, item_eq⟩ :=
    Json.exists_item_of_listOf? ofJson? json snapshots decoded snapshot member
  exact inRange_of_ofJson? item snapshot item_eq

end Snapshot

end TrafficMeter
