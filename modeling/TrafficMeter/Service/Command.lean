import TrafficMeter.Display.Codec
import TrafficMeter.Display.Viewer

set_option autoImplicit false

namespace TrafficMeter

/-- What a live client may ask for. -/
inductive Command
  | range (kind : RangeKind)
  | server (index : Nat)
  | period (input : String)
  | lock
  | unlock
deriving DecidableEq, Repr

namespace Command

def action : Command → ViewerAction
  | range kind => .showRange (.ofKind kind)
  | server index => .showServer (.ofIndex index)
  | period input => .enterPeriod input
  | lock => .lock
  | unlock => .unlock

/-- A kind of range; beside null, an empty object stands for nothing too. -/
def rangeKind? : Json → Option RangeKind
  | .object [(some name, .object [])] => RangeKind.ofText? name
  | json => RangeKind.ofJson? json

/-- The one part of a command, which is an object's field of its name or an array's only item. -/
def part? (name : String) : Json → Option Json
  | .object fields => if Json.givenOnce fields name then Json.field? fields name else none
  | .array [item] => some item
  | _ => none

/-- Nothing more may follow in an array; fields of an object do not count. -/
def isBare : Json → Bool
  | .object _ => true
  | .array [] => true
  | _ => false

/-- The command of a given type, from all that stands beside the type. -/
def ofType? (type : String) (rest : Json) : Option Command :=
  match type with
  | "range" => ((part? "range" rest).bind rangeKind?).map range
  | "server" => ((part? "server" rest).bind Json.index?).map server
  | "period" => ((part? "period" rest).bind Json.string?).map period
  | "lock" => if isBare rest then some lock else none
  | "unlock" => if isBare rest then some unlock else none
  | _ => none

/-- A command is an object with a field for its type, or an array that begins with it. -/
def ofJson? (json : Json) : Option Command :=
  if json.isSound Json.depthLimit then
    match json with
    | .object fields =>
      if Json.givenOnce fields "type" then do
        let type ← (← Json.field? fields "type").string?
        ofType? type (.object (fields.filter (·.1 != some "type")))
      else none
    | .array (type :: rest) => do ofType? (← type.string?) (.array rest)
    | _ => none
  else none

def ofText? (text : String) : Option Command := (Json.parse? text).bind ofJson?

end Command

end TrafficMeter
