import TrafficMeter.Json.Basic

set_option autoImplicit false

namespace TrafficMeter.Json

/-- A plain integer literal between two bounds. -/
def intBetween? (least greatest : Int) : Json → Option Int
  | .int value => if least ≤ value ∧ value ≤ greatest then some value else none
  | _ => none

/-- A signed 64-bit integer. -/
def int64? : Json → Option Int :=
  intBetween? Int64.minValue.toInt Int64.maxValue.toInt

/-- A signed 32-bit integer. -/
def int32? : Json → Option Int :=
  intBetween? Int32.minValue.toInt Int32.maxValue.toInt

/-- An unsigned 64-bit integer. -/
def uint64? (json : Json) : Option UInt64 :=
  (intBetween? 0 (UInt64.size - 1) json).map fun value => UInt64.ofNat value.toNat

/-- An unsigned 32-bit integer. -/
def uint32? (json : Json) : Option UInt32 :=
  (intBetween? 0 (UInt32.size - 1) json).map fun value => UInt32.ofNat value.toNat

/-- An index, of 64 bits at most. -/
def index? (json : Json) : Option Nat := (uint64? json).map UInt64.toNat

def string? : Json → Option String
  | .text value => value
  | _ => none

def bool? : Json → Option Bool
  | .bool value => some value
  | _ => none

def listOf? {α : Type} (decode : Json → Option α) : Json → Option (List α)
  | .array items => items.mapM decode
  | _ => none

/-- A value, or null in its place. -/
def nullable? {α : Type} (decode : Json → Option α) : Json → Option (Option α)
  | .null => some none
  | json => (decode json).map some

/-- A named choice, written as its name or as an object that gives the name nothing. -/
def choice? : Json → Option String
  | .text value => value
  | .object [(key, .null)] => key
  | _ => none

/-- The value of a field. -/
def field? (fields : List (JsonText × Json)) (name : String) : Option Json :=
  fields.lookup (some name)

/-- Whether no field of the given name is repeated. -/
def givenOnce (fields : List (JsonText × Json)) (name : String) : Bool :=
  (fields.filter (·.1 == some name)).length ≤ 1

/-- The parts of a record, one for each name, as far as they are given. A record is an object, in
which other fields do not count but none of its own is repeated, or an array of its parts in order,
of which the last may be missing. -/
def record? (names : List String) : Json → Option (List (Option Json))
  | .object fields =>
    if fields.all (·.1.isSome) ∧ names.all (givenOnce fields) then some (names.map (field? fields))
    else none
  | .array items =>
    if items.length ≤ names.length then
      some ((List.range names.length).map fun position => items[position]?)
    else none
  | _ => none

/-- A part that has to be there. -/
def required? {α : Type} (decode : Json → Option α) : Option Json → Option α
  | none => none
  | some json => decode json

/-- A part that may be missing. -/
def optional? {α : Type} (default : α) (decode : Json → Option α) : Option Json → Option α
  | none => some default
  | some json => decode json

end TrafficMeter.Json
