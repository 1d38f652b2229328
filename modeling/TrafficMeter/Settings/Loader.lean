import TrafficMeter.Settings.Basic
import TrafficMeter.Toml.Parser

set_option autoImplicit false

namespace TrafficMeter

namespace Toml

/-- The parts of a record, one for each name, as far as they are given: by name in a table, where
other fields do not count but have to be readable, or in order in an array, where nobody looks
behind the last part. A time is a record of which nothing is given. -/
def record? (names : List String) : Toml → Option (List (Option Toml))
  | table _ fields =>
    if fields.all fun (name, value) => names.contains name || value.isReadable then
      some (names.map fun name => fields.lookup name)
    else none
  | time => some (names.map fun _ => none)
  | array items => some ((List.range names.length).map fun position => items[position]?)
  | tables elements =>
    some ((List.range names.length).map fun position => elements[position]?.map (table .header))
  | _ => none

def required? {α : Type} (decode : Toml → Option α) : Option Toml → Option α
  | none => none
  | some value => decode value

def optional? {α : Type} (default : α) (decode : Toml → Option α) : Option Toml → Option α
  | none => some default
  | some value => decode value

def string? : Toml → Option String
  | text value => some value
  | _ => none

def intBetween? (least greatest : Int) : Toml → Option Int
  | int value => if least ≤ value ∧ value ≤ greatest then some value else none
  | _ => none

def natBelow? (bound : Nat) (value : Toml) : Option Nat :=
  (intBetween? 0 (bound - 1) value).map Int.toNat

/-- A named choice, written as its name or as a table that gives the name nothing. -/
def choice? : Toml → Option String
  | text name => some name
  | table _ [(name, table _ [])] => some name
  | table _ [(name, array [])] => some name
  | _ => none

end Toml

namespace AggregateSource

def ofName? (name : String) : Option AggregateSource :=
  match name with
  | "provided" => some provided
  | "merge" => some merged
  | _ => none

def ofToml? (value : Toml) : Option AggregateSource := value.choice?.bind ofName?

end AggregateSource

/-- Why there are no settings. -/
inductive SettingsError
  | missingFile
  | undecodable
  | invalid (fault : SettingsFault)
deriving DecidableEq, Repr

namespace Settings

def serverOfToml? (value : Toml) : Option (Nat × String) := do
  match ← value.record? ["port", "host"] with
  | [port, host] =>
    return (← Toml.required? (Toml.natBelow? UInt16.size) port, ← Toml.required? Toml.string? host)
  | _ => none

def storeOfToml? (value : Toml) : Option (String × AggregateSource) := do
  match ← value.record? ["path", "aggregate"] with
  | [path, source] =>
    return (← Toml.required? Toml.string? path,
      ← Toml.optional? .provided AggregateSource.ofToml? source)
  | _ => none

def pollsOfToml? (value : Toml) : Option (Nat × Nat) := do
  match ← value.record? ["interval_ms", "stats_log_interval_secs"] with
  | [interval, statistics] =>
    return (← Toml.required? (Toml.natBelow? UInt64.size) interval,
      ← Toml.required? (Toml.natBelow? UInt64.size) statistics)
  | _ => none

/-- Either year may be left to the standard limits. -/
def yearsOfToml? (value : Toml) : Option YearLimits := do
  let year := Toml.intBetween? Int32.minValue.toInt Int32.maxValue.toInt
  match ← value.record? ["min_year", "max_year"] with
  | [first, last] =>
    return ⟨← Toml.optional? YearLimits.standard.first year first,
      ← Toml.optional? YearLimits.standard.last year last⟩
  | _ => none

/-- The settings of a file, whether they make sense or not. -/
def ofToml? (file : Toml) : Option Settings := do
  match ← file.record? ["server", "provider", "refresh", "period"] with
  | [server, store, polls, years] =>
    let (port, host) ← Toml.required? serverOfToml? server
    let (path, source) ← Toml.required? storeOfToml? store
    let (intervalMilliseconds, statisticsSeconds) ← Toml.required? pollsOfToml? polls
    let years ← Toml.optional? .standard yearsOfToml? years
    return { port, host, path, source, intervalMilliseconds, statisticsSeconds, years }
  | _ => none

/-- The settings that a text holds. -/
def ofText (text : String) : Except SettingsError Settings :=
  match (Toml.parse? text).bind ofToml? with
  | none => .error .undecodable
  | some settings =>
    match settings.fault? with
    | some fault => .error (.invalid fault)
    | none => .ok settings

/-- The settings of a file, which may be missing. -/
def load : Option String → Except SettingsError Settings
  | none => .error .missingFile
  | some text => ofText text

end Settings

end TrafficMeter
