import TrafficMeter.Json.Parser

set_option autoImplicit false

namespace TrafficMeter.Json

/-- Integers beyond 64 bits are numbers like those with a fraction. -/
def ofWide (value : Int) : Json :=
  if Int64.minValue.toInt ≤ value ∧ value < UInt64.size then .int value
  else .real ⟨value < 0, value.natAbs, 0⟩

mutual

/-- A document with no integer beyond 64 bits. -/
def narrow : Json → Json
  | .int value => ofWide value
  | .array items => .array (narrowItems items)
  | .object fields => .object (narrowFields fields)
  | json => json

def narrowItems : List Json → List Json
  | [] => []
  | item :: rest => narrow item :: narrowItems rest

def narrowFields : List (JsonText × Json) → List (JsonText × Json)
  | [] => []
  | (key, value) :: rest => (key, narrow value) :: narrowFields rest

end

/-- Reads a document of any kind, which has to be sound throughout. -/
def document? (text : String) : Option Json := do
  let json ← parse? text
  if json.isSound depthLimit then some json.narrow else none

end TrafficMeter.Json
