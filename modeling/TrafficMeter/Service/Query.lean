import TrafficMeter.Json.Token
import TrafficMeter.Period.Range
import TrafficMeter.Snapshot.Batch
import TrafficMeter.Text.Utf8

set_option autoImplicit false

namespace TrafficMeter

/-- The parameters of a request, in order, with repeated ones kept. -/
abbrev Query := List (String × String)

namespace Query

/-- Splits at every separator; a text without one is a single piece. -/
def splitAt (separator : Char) : List Char → List (List Char)
  | [] => [[]]
  | char :: rest =>
    if char = separator then [] :: splitAt separator rest
    else
      match splitAt separator rest with
      | [] => [[char]]
      | piece :: pieces => (char :: piece) :: pieces

/-- Bytes of a part: a plus sign is a blank, and a percent sign before two hexadecimal digits
brings the byte of that value. -/
def partBytes : List Char → List Nat
  | [] => []
  | '+' :: rest => 0x20 :: partBytes rest
  | '%' :: high :: low :: rest =>
    match hexValue? high, hexValue? low with
    | some high, some low => (high * 16 + low) :: partBytes rest
    | _, _ => 0x25 :: partBytes (high :: low :: rest)
  | char :: rest => Text.encodeCode char.toNat ++ partBytes rest

def decodePart (chars : List Char) : String :=
  String.ofList (Text.decodeUtf8 (partBytes chars))

/-- A parameter's name ends at the first equals sign; without one the value is empty. -/
def decodePair (chars : List Char) : String × String :=
  (decodePart (chars.takeWhile (· ≠ '=')),
    decodePart ((chars.dropWhile (· ≠ '=')).drop 1))

/-- Pieces without any character are no parameters. -/
def decode (chars : List Char) : Query :=
  ((splitAt '&' chars).filter (· ≠ [])).map decodePair

/-- Values given for a parameter. -/
def values (query : Query) (name : String) : List String :=
  (query.filter (·.1 = name)).map (·.2)

/-- A parameter that may be left out, but not repeated. -/
def parameter? {α : Type} (query : Query) (name : String) (read : String → Option α) :
    Option (Option α) :=
  match query.values name with
  | [] => some none
  | [value] => (read value).map some
  | _ => none

/-- A server index: decimal digits, which a plus sign may precede, of 64 bits at most. -/
def serverIndex? (text : String) : Option Nat :=
  let digits :=
    match text.toList with
    | '+' :: rest => rest
    | chars => chars
  match Decimal.number? digits.length digits with
  | some index => if index < UInt64.size then some index else none
  | none => none

/-- The server that is asked for; all of them if none is named. -/
def scope? (query : Query) : Option Scope :=
  (query.parameter? "server" serverIndex?).map fun index => Scope.ofIndex (index.getD 0)

/-- What a chart is asked for by. -/
structure ChartRequest where
  range : Option RangeKind
  scope : Scope
  period : Option String
deriving DecidableEq, Repr

def chartRequest? (query : Query) : Option ChartRequest := do
  return {
    range := ← query.parameter? "range" RangeKind.ofText?
    scope := ← query.scope?
    period := ← query.parameter? "period" some }

end Query

end TrafficMeter
