import TrafficMeter.Json.Decode
import TrafficMeter.Json.Parser
import TrafficMeter.Json.Printer
import TrafficMeter.Snapshot.Basic

set_option autoImplicit false

namespace TrafficMeter

namespace Size

def fieldNames : List String := ["SizeMB", "SizeLo"]

def toJson (size : Size) : Json :=
  .ofFields [("SizeMB", .int size.megabytes.toNat), ("SizeLo", .int size.lowBytes.toNat)]

/-- Both parts have to be given. -/
def ofJson? (json : Json) : Option Size := do
  match ← json.record? fieldNames with
  | [megabytes, lowBytes] =>
    return ⟨← Json.required? Json.uint64? megabytes, ← Json.required? Json.uint32? lowBytes⟩
  | _ => none

end Size

namespace Ring

def toJson (ring : Ring) : Json := .ofList (.ofOption Size.toJson) ring

def ofJson? : Json → Option Ring := Json.listOf? (Json.nullable? Size.ofJson?)

end Ring

namespace Snapshot

/-- In the order in which a record lists its parts. -/
def fieldNames : List String :=
  ["ServerID", "FirstDay", "DaySlot", "HourSlot", "MinSlot", "SecSlot", "BytesPerSeconds",
    "BytesPerMinutes", "BytesPerHours", "BytesPerDays", "TotalSizeMB", "TotalSizeLo",
    "CustomSizeMB", "CustomSizeLo", "CustomTime"]

def fieldValues (snapshot : Snapshot) : List Json :=
  [.int snapshot.serverId, .int snapshot.firstDay, .int snapshot.daySlot, .int snapshot.hourSlot,
    .int snapshot.minuteSlot, .int snapshot.secondSlot, snapshot.seconds.toJson,
    snapshot.minutes.toJson, snapshot.hours.toJson, snapshot.days.toJson,
    .int snapshot.total.megabytes.toNat, .int snapshot.total.lowBytes.toNat,
    .int snapshot.custom.megabytes.toNat, .int snapshot.custom.lowBytes.toNat,
    .int snapshot.customTime]

def toJson (snapshot : Snapshot) : Json := .ofFields (fieldNames.zip snapshot.fieldValues)

/-- The day of the first slot and the day slot have to be given; all else is zero or empty if it
is missing. -/
def ofJson? (json : Json) : Option Snapshot := do
  match ← json.record? fieldNames with
  | [serverId, firstDay, daySlot, hourSlot, minuteSlot, secondSlot, seconds, minutes, hours, days,
      totalMegabytes, totalLowBytes, customMegabytes, customLowBytes, customTime] =>
    return {
      serverId := ← Json.optional? 0 Json.int64? serverId
      firstDay := ← Json.required? Json.int64? firstDay
      daySlot := ← Json.required? Json.int64? daySlot
      hourSlot := ← Json.optional? 0 Json.int64? hourSlot
      minuteSlot := ← Json.optional? 0 Json.int64? minuteSlot
      secondSlot := ← Json.optional? 0 Json.int64? secondSlot
      seconds := ← Json.optional? [] Ring.ofJson? seconds
      minutes := ← Json.optional? [] Ring.ofJson? minutes
      hours := ← Json.optional? [] Ring.ofJson? hours
      days := ← Json.optional? [] Ring.ofJson? days
      total := ⟨← Json.optional? 0 Json.uint64? totalMegabytes,
        ← Json.optional? 0 Json.uint32? totalLowBytes⟩
      custom := ⟨← Json.optional? 0 Json.uint64? customMegabytes,
        ← Json.optional? 0 Json.uint32? customLowBytes⟩
      customTime := ← Json.optional? 0 Json.int64? customTime }
  | _ => none

/-- Text of a list of snapshots, an item on each line. -/
def listText (snapshots : List Snapshot) : String :=
  (Json.ofList toJson snapshots).indentedText

def listOfText? (text : String) : Option (List Snapshot) :=
  (Json.parse? text).bind (Json.listOf? ofJson?)

end Snapshot

end TrafficMeter
