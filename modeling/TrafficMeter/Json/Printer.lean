import TrafficMeter.Json.Basic
import TrafficMeter.Number.Decimal

set_option autoImplicit false

namespace TrafficMeter.Json

def hexDigit (value : Nat) : Char := Nat.digitChar (value % 16)

/-- One character of a string literal. Only what a literal cannot hold is escaped. -/
def charText (char : Char) : List Char :=
  if char = '"' then ['\\', '"']
  else if char = '\\' then ['\\', '\\']
  else if char = '\x08' then ['\\', 'b']
  else if char = '\x0c' then ['\\', 'f']
  else if char = '\n' then ['\\', 'n']
  else if char = '\r' then ['\\', 'r']
  else if char = '\t' then ['\\', 't']
  else if char.toNat < 0x20 then
    ['\\', 'u', '0', '0', hexDigit (char.toNat / 16), hexDigit char.toNat]
  else [char]

/-- A text that is none is written as null. -/
def textLiteral : JsonText → List Char
  | none => ['n', 'u', 'l', 'l']
  | some value => '"' :: value.toList.flatMap charText ++ ['"']

/-- The digits with their power of ten. -/
def realLiteral (real : DecimalReal) : List Char :=
  (if real.negative then ['-'] else []) ++ Decimal.digits real.digits ++ ['.', '0', 'e'] ++
    Decimal.signed 0 real.exponent

/-- Line breaks and indentation of the items of an array or object. -/
inductive Layout
  | compact
  /-- Every item on a line of its own, two blanks further in than what encloses it. -/
  | indented
deriving DecidableEq, Repr

namespace Layout

def lineBreak (layout : Layout) (depth : Nat) : List Char :=
  match layout with
  | compact => []
  | indented => '\n' :: List.replicate (2 * depth) ' '

def colon : Layout → List Char
  | compact => [':']
  | indented => [':', ' ']

end Layout

/-- Encloses items in brackets; without items the brackets stand together. -/
def enclose (layout : Layout) (depth : Nat) (opening closing : Char) (items : List (List Char)) :
    List Char :=
  match items with
  | [] => [opening, closing]
  | first :: rest =>
    opening :: layout.lineBreak (depth + 1) ++ first ++
      rest.flatMap (fun item => ',' :: layout.lineBreak (depth + 1) ++ item) ++
      layout.lineBreak depth ++ [closing]

mutual

/-- Text of a value that stands `depth` levels in. -/
def render (layout : Layout) (depth : Nat) : Json → List Char
  | .null => ['n', 'u', 'l', 'l']
  | .bool true => ['t', 'r', 'u', 'e']
  | .bool false => ['f', 'a', 'l', 's', 'e']
  | .int value => Decimal.signed 0 value
  | .real value => realLiteral value
  | .text value => textLiteral value
  | .array items => enclose layout depth '[' ']' (renderItems layout (depth + 1) items)
  | .object fields => enclose layout depth '{' '}' (renderFields layout (depth + 1) fields)

def renderItems (layout : Layout) (depth : Nat) : List Json → List (List Char)
  | [] => []
  | item :: rest => render layout depth item :: renderItems layout depth rest

def renderFields (layout : Layout) (depth : Nat) : List (JsonText × Json) → List (List Char)
  | [] => []
  | (key, value) :: rest =>
    (textLiteral key ++ layout.colon ++ render layout depth value) ::
      renderFields layout depth rest

end

/-- On one line. -/
def compactText (json : Json) : String := String.ofList (render .compact 0 json)

/-- On a line for each item. -/
def indentedText (json : Json) : String := String.ofList (render .indented 0 json)

end TrafficMeter.Json
