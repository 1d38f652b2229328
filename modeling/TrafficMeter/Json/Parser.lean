import TrafficMeter.Json.Token

set_option autoImplicit false

namespace TrafficMeter.Json

mutual

/-- Reads one value within a number of steps. -/
def valueWithin : Nat → List JsonToken → Option (Json × List JsonToken)
  | 0, _ => none
  | steps + 1, tokens =>
    match tokens with
    | .null :: rest => some (.null, rest)
    | .bool value :: rest => some (.bool value, rest)
    | .int value :: rest => some (.int value, rest)
    | .real value :: rest => some (.real value, rest)
    | .text value :: rest => some (.text value, rest)
    | .openBracket :: .closeBracket :: rest => some (.array [], rest)
    | .openBracket :: rest => (itemsWithin steps rest).map fun (items, rest) => (.array items, rest)
    | .openBrace :: .closeBrace :: rest => some (.object [], rest)
    | .openBrace :: rest =>
      (fieldsWithin steps rest).map fun (fields, rest) => (.object fields, rest)
    | _ => none

/-- Reads the items of an array up to its end; no comma stands before the end. -/
def itemsWithin : Nat → List JsonToken → Option (List Json × List JsonToken)
  | 0, _ => none
  | steps + 1, tokens =>
    match valueWithin steps tokens with
    | some (item, .closeBracket :: rest) => some ([item], rest)
    | some (item, .comma :: rest) =>
      (itemsWithin steps rest).map fun (items, rest) => (item :: items, rest)
    | _ => none

/-- Reads the fields of an object up to its end; no comma stands before the end. -/
def fieldsWithin : Nat → List JsonToken → Option (List (JsonText × Json) × List JsonToken)
  | 0, _ => none
  | steps + 1, tokens =>
    match tokens with
    | .text key :: .colon :: rest =>
      match valueWithin steps rest with
      | some (value, .closeBrace :: rest) => some ([(key, value)], rest)
      | some (value, .comma :: rest) =>
        (fieldsWithin steps rest).map fun (fields, rest) => ((key, value) :: fields, rest)
      | _ => none
    | _ => none

end

/-- Reads one document and nothing behind it. -/
def ofTokens? (tokens : List JsonToken) : Option Json :=
  match valueWithin (2 * tokens.length + 2) tokens with
  | some (json, []) => some json
  | _ => none

def parseChars? (chars : List Char) : Option Json := (JsonToken.all? chars).bind ofTokens?

def parse? (text : String) : Option Json := parseChars? text.toList

end TrafficMeter.Json
