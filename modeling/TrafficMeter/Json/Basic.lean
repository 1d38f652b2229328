import TrafficMeter.Number.DecimalReal

set_option autoImplicit false

namespace TrafficMeter

/-- Content of a string literal; absent if an escape leaves half of a surrogate pair, which no
text can hold. -/
abbrev JsonText := Option String

/-- A document as it is written: the order of fields and repeated fields are kept. -/
inductive Json
  | null
  | bool (value : Bool)
  /-- A number without fraction and exponent, but not a negative zero. -/
  | int (value : Int)
  | real (value : DecimalReal)
  | text (value : JsonText)
  | array (items : List Json)
  | object (fields : List (JsonText × Json))
deriving Repr, Inhabited

namespace Json

def ofString (value : String) : Json := .text (some value)

def ofFields (fields : List (String × Json)) : Json :=
  .object (fields.map fun (key, value) => (some key, value))

def ofOption {α : Type} (encode : α → Json) : Option α → Json
  | none => .null
  | some value => encode value

def ofList {α : Type} (encode : α → Json) (values : List α) : Json := .array (values.map encode)

/-- A document that can be taken up as a whole: all its texts are texts, its numbers fit a double,
and its arrays and objects nest at most `depth` deep. -/
def isSound (depth : Nat) (json : Json) : Bool :=
  match depth, json with
  | _, .null | _, .bool _ => true
  | _, .int value => value.natAbs < doubleOverflow
  | _, .real value => value.isFinite
  | _, .text value => value.isSome
  | 0, .array _ | 0, .object _ => false
  | depth + 1, .array items => items.all (isSound depth)
  | depth + 1, .object fields => fields.all fun (key, value) => key.isSome && isSound depth value

/-- The deepest nesting of a document that is taken up as a whole. -/
def depthLimit : Nat := 127

end Json

end TrafficMeter
