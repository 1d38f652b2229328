import TrafficMeter.Snapshot.Codec
import TrafficMeter.Display.Frame

set_option autoImplicit false

namespace TrafficMeter

namespace RangeKind

def ofJson? (json : Json) : Option RangeKind := json.choice?.bind ofText?

end RangeKind

namespace SizeUnit

def ofSymbol? (symbol : String) : Option SizeUnit := all.find? (·.symbol = symbol)

def ofJson? (json : Json) : Option SizeUnit := json.choice?.bind ofSymbol?

end SizeUnit

namespace Counter

def toJson (counter : Counter) : Json :=
  .ofFields [("display", .ofString counter.display), ("raw", .ofOption Size.toJson counter.raw)]

/-- In an object the size may be left out; in an array both parts have to stand. -/
def ofJson? (json : Json) : Option Counter := do
  match json, ← json.record? ["display", "raw"] with
  | .array _, [display, raw] =>
    return ⟨← Json.required? Json.string? display,
      ← Json.required? (Json.nullable? Size.ofJson?) raw⟩
  | _, [display, raw] =>
    return ⟨← Json.required? Json.string? display,
      ← Json.optional? none (Json.nullable? Size.ofJson?) raw⟩
  | _, _ => none

end Counter

namespace ResetStamp

def toJson (stamp : ResetStamp) : Json :=
  .ofFields [("display", .ofString stamp.display), ("raw", .int stamp.raw)]

def ofJson? (json : Json) : Option ResetStamp := do
  match ← json.record? ["display", "raw"] with
  | [display, raw] =>
    return ⟨← Json.required? Json.string? display, ← Json.required? Json.int64? raw⟩
  | _ => none

end ResetStamp

namespace Summary

def toJson (summary : Summary) : Json :=
  .ofFields [("today", summary.today.toJson), ("monthToDate", summary.monthToDate.toJson),
    ("allTime", summary.allTime.toJson), ("sinceReset", summary.sinceReset.toJson),
    ("resetTimestamp", summary.resetStamp.toJson)]

def ofJson? (json : Json) : Option Summary := do
  match ← json.record? ["today", "monthToDate", "allTime", "sinceReset", "resetTimestamp"] with
  | [today, monthToDate, allTime, sinceReset, resetStamp] =>
    return {
      today := ← Json.required? Counter.ofJson? today
      monthToDate := ← Json.required? Counter.ofJson? monthToDate
      allTime := ← Json.required? Counter.ofJson? allTime
      sinceReset := ← Json.required? Counter.ofJson? sinceReset
      resetStamp := ← Json.required? ResetStamp.ofJson? resetStamp }
  | _ => none

end Summary

def ChartStatus.text : ChartStatus → String
  | ready => "ready"
  | noPeriodData => "noPeriodData"

/-- How plotted numbers are written is left to `number`. -/
def Chart.toJson (number : BinaryFraction → Json) (chart : Chart) : Json :=
  .ofFields [("status", .ofString chart.status.text), ("caption", .ofString chart.caption),
    ("unit", .ofString chart.unit.symbol), ("values", .ofList (.ofOption number) chart.plotted),
    ("rawValues", .ofList (.ofOption Size.toJson) chart.series.values),
    ("axisLabels", .ofList (fun point => .ofString point.axisLabel) chart.series.points),
    ("hoverLabels", .ofList (fun point => .ofString point.hoverLabel) chart.series.points),
    ("currentIndex", .ofOption (fun index => .int index) chart.series.current),
    ("total", chart.total.toJson)]

namespace Frame

def fields (number : BinaryFraction → Json) (frame : Frame) : List (String × Json) :=
  [("chart", frame.chart.toJson number), ("counters", frame.summary.toJson)]

def toJson (number : BinaryFraction → Json) (frame : Frame) : Json :=
  .ofFields (frame.fields number)

end Frame

/-- An entry of a menu: what is entered to choose the period, and what it is called. -/
def Period.toJson (period : Period) : Json :=
  .ofFields [("id", .ofString period.id), ("caption", .ofString period.caption)]

end TrafficMeter
