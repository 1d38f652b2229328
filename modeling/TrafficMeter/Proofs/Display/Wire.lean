import TrafficMeter.Display.Codec
import TrafficMeter.Proofs.Snapshot.Wire
import TrafficMeter.Store.Basic

set_option autoImplicit false

namespace TrafficMeter

namespace Counter

theorem isPlain_toJson (counter : Counter) : counter.toJson.IsPlain :=
  ⟨rfl, rfl, rfl, Json.isPlain_ofOption Size.toJson Size.isPlain_toJson counter.raw, trivial⟩

theorem ofJson?_toJson (counter : Counter) : ofJson? counter.toJson = some counter := by
  have parts : counter.toJson.record? ["display", "raw"] =
      some [some (.ofString counter.display), some (.ofOption Size.toJson counter.raw)] :=
    Json.record?_ofFields ["display", "raw"]
      [.ofString counter.display, .ofOption Size.toJson counter.raw] (by decide) rfl
  have raw : Json.nullable? Size.ofJson? (.ofOption Size.toJson counter.raw) = some counter.raw :=
    Json.nullable?_ofOption Size.toJson Size.ofJson? (fun _ => nofun) Size.ofJson?_toJson _
  rw [ofJson?, parts, Option.bind_eq_bind, Option.bind_some]
  show (some counter.display).bind (fun display =>
    (Json.nullable? Size.ofJson? (.ofOption Size.toJson counter.raw)).bind fun raw =>
      some (⟨display, raw⟩ : Counter)) = _
  rw [raw, Option.bind_some, Option.bind_some]

end Counter

namespace ResetStamp

theorem isPlain_toJson (stamp : ResetStamp) : stamp.toJson.IsPlain :=
  ⟨rfl, rfl, rfl, trivial, trivial⟩

theorem ofJson?_toJson (stamp : ResetStamp) (fits : Json.IsInt64 stamp.raw) :
    ofJson? stamp.toJson = some stamp := by
  have parts : stamp.toJson.record? ["display", "raw"] =
      some [some (.ofString stamp.display), some (.int stamp.raw)] :=
    Json.record?_ofFields ["display", "raw"] [.ofString stamp.display, .int stamp.raw]
      (by decide) rfl
  rw [ofJson?, parts, Option.bind_eq_bind, Option.bind_some]
  show (some stamp.display).bind (fun display =>
    (Json.int64? (.int stamp.raw)).bind fun raw => some (⟨display, raw⟩ : ResetStamp)) = _
  rw [Json.int64?_int stamp.raw fits, Option.bind_some, Option.bind_some]

end ResetStamp

namespace Summary

/-- In the order in which the counters are written. -/
def fieldNames : List String :=
  ["today", "monthToDate", "allTime", "sinceReset", "resetTimestamp"]

def fieldValues (summary : Summary) : List Json :=
  [summary.today.toJson, summary.monthToDate.toJson, summary.allTime.toJson,
    summary.sinceReset.toJson, summary.resetStamp.toJson]

theorem isPlain_toJson (summary : Summary) : summary.toJson.IsPlain :=
  ⟨rfl, summary.today.isPlain_toJson, rfl, summary.monthToDate.isPlain_toJson, rfl,
    summary.allTime.isPlain_toJson, rfl, summary.sinceReset.isPlain_toJson, rfl,
    summary.resetStamp.isPlain_toJson, trivial⟩

theorem ofJson?_toJson (summary : Summary) (fits : Json.IsInt64 summary.resetStamp.raw) :
    ofJson? summary.toJson = some summary := by
  have parts : summary.toJson.record? fieldNames = some (summary.fieldValues.map some) :=
    Json.record?_ofFields fieldNames summary.fieldValues (by decide) rfl
  rw [fieldNames] at parts
  rw [ofJson?, parts]
  simp only [fieldValues, List.map_cons, List.map_nil, Option.bind_eq_bind, Option.bind_some,
    Json.required?, Counter.ofJson?_toJson, ResetStamp.ofJson?_toJson _ fits, Option.pure_def]

end Summary

/-- What is written is read back as it was: a file of snapshots, and the headline counters in either
layout of their document. -/
theorem written_data_reads_back :
    (∀ snapshots : List Snapshot, (∀ snapshot ∈ snapshots, snapshot.InRange) →
      Store.recordsOf (some (Snapshot.listText snapshots)) = .ok snapshots) ∧
    ∀ (summary : Summary) (layout : Json.Layout), Json.IsInt64 summary.resetStamp.raw →
      (Json.parse? (String.ofList (summary.toJson.render layout 0))).bind Summary.ofJson? =
        some summary := by
  constructor
  · intro snapshots inRange
    rw [Store.recordsOf, Snapshot.listOfText?_listText snapshots inRange]
  · intro summary layout fits
    have parsed := Json.parse?_render layout summary.toJson summary.isPlain_toJson
    rw [parsed, Option.bind_some, summary.ofJson?_toJson fits]

/-- A snapshot whose numbers lie at the ends of their ranges. -/
def extremeSnapshot : Snapshot where
  serverId := Int64.minValue.toInt
  firstDay := Int64.maxValue.toInt
  daySlot := -1
  hourSlot := 0
  minuteSlot := Int64.minValue.toInt
  secondSlot := Int64.maxValue.toInt
  seconds := [none, some 0, some ⟨18446744073709551615, 4294967295⟩]
  minutes := []
  hours := [none]
  days := [some ⟨1, 1048576⟩, none]
  total := ⟨18446744073709551615, 0⟩
  custom := ⟨0, 4294967295⟩
  customTime := Int64.minValue.toInt

/-- Counters whose texts need escapes, with an absent size beside one that is zero. -/
def extremeSummary : Summary where
  today := ⟨"no \"data\"\n\\", none⟩
  monthToDate := ⟨"", some 0⟩
  allTime := ⟨"\u0001\u007f\uffff😀", some ⟨18446744073709551615, 4294967295⟩⟩
  sinceReset := ⟨"null", some ⟨0, 1⟩⟩
  resetStamp := ⟨"[\x7b\x7d]", Int64.minValue.toInt⟩

theorem written_data_reads_back_extreme :
    Store.recordsOf (some (Snapshot.listText [extremeSnapshot, extremeSnapshot])) =
        .ok [extremeSnapshot, extremeSnapshot] ∧
      (Json.parse? (String.ofList (extremeSummary.toJson.render .compact 0))).bind
        Summary.ofJson? = some extremeSummary :=
  ⟨written_data_reads_back.1 _ (by decide), written_data_reads_back.2 _ .compact (by decide)⟩

end TrafficMeter
