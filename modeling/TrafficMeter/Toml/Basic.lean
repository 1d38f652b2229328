set_option autoImplicit false

namespace TrafficMeter

/-- How a table came to be, which tells what may still be added to it. -/
inductive TableOrigin
  /-- Written in braces, and complete at once. -/
  | braces
  /-- Opened by its own header. -/
  | header
  /-- On the way to another header. -/
  | implied
  /-- On the way of a dotted key. -/
  | dotted
deriving DecidableEq, Repr

/-- A value of a settings file. Numbers with a fraction and times have no content of their own,
since no setting takes one. -/
inductive Toml
  | text (value : String)
  | int (value : Int)
  | bool (value : Bool)
  | real
  | time
  /-- A number in good form that has no value, such as one too large. The file stands, but no
  setting can be read where one is looked at. -/
  | unreadable
  | array (items : List Toml)
  | table (origin : TableOrigin) (fields : List (String × Toml))
  /-- Tables opened one after another by a header in double brackets. -/
  | tables (elements : List (List (String × Toml)))
deriving Repr, Inhabited

/-- A line of a settings file that says something. -/
inductive TomlStatement
  | set (path : List String) (value : Toml)
  | openTable (path : List String)
  | openElement (path : List String)
deriving Repr

namespace Toml

abbrev Fields := List (String × Toml)

mutual

/-- Whether all numbers in the value have values. -/
def isReadable : Toml → Bool
  | unreadable => false
  | array items => areReadable items
  | table _ fields => areFieldsReadable fields
  | tables elements => areElementsReadable elements
  | _ => true

def areReadable : List Toml → Bool
  | [] => true
  | item :: items => isReadable item && areReadable items

def areFieldsReadable : Fields → Bool
  | [] => true
  | (_, value) :: fields => isReadable value && areFieldsReadable fields

def areElementsReadable : List Fields → Bool
  | [] => true
  | fields :: elements => areFieldsReadable fields && areElementsReadable elements

end

/-- Puts a value in the place of a field. -/
def replace (fields : Fields) (key : String) (value : Toml) : Fields :=
  fields.map fun field => if field.1 = key then (key, value) else field

/-- Changes the table at a path. Tables on the way that do not exist are made; a path through an
array of tables goes to its last one. Neither kind of path enters braces, and a dotted key enters
no table that has a header of its own. A table that a dotted key goes through can no longer get a
header of its own. -/
def changeAt (isDotted : Bool) (change : TableOrigin → Fields → Option Fields)
    (origin : TableOrigin) (fields : Fields) : List String → Option Fields
  | [] => change origin fields
  | key :: path =>
    match fields.lookup key with
    | none => do
      let made := if isDotted then TableOrigin.dotted else TableOrigin.implied
      let inner ← changeAt isDotted change made [] path
      return fields ++ [(key, table made inner)]
    | some (table innerOrigin inner) =>
      if innerOrigin = .braces ∨ (isDotted ∧ innerOrigin = .header) then none
      else do
        let reached := if isDotted then TableOrigin.dotted else innerOrigin
        let inner ← changeAt isDotted change reached inner path
        return replace fields key (table reached inner)
    | some (tables elements) => do
      let inner ← changeAt isDotted change .header (← elements.getLast?) path
      return replace fields key (tables (elements.dropLast ++ [inner]))
    | some _ => none

/-- Adds a field under a dotted key, but not straight to an element of an array of tables. No field
is given twice. -/
def setField (origin : TableOrigin) (fields : Fields) (path : List String) (value : Toml) :
    Option Fields := do
  let key ← path.getLast?
  let way := path.dropLast
  changeAt true
    (fun parent fields =>
      if (way ≠ [] ∧ parent ≠ .dotted) ∨ (fields.lookup key).isSome then none
      else some (fields ++ [(key, value)]))
    origin fields way

/-- Opens a table under its header; a table that was only implied before may still be opened. -/
def openTable (fields : Fields) (path : List String) : Option Fields := do
  let key ← path.getLast?
  changeAt false
    (fun _ fields =>
      match fields.lookup key with
      | none => some (fields ++ [(key, table .header [])])
      | some (table .implied inner) => some (replace fields key (table .header inner))
      | some _ => none)
    .header fields path.dropLast

/-- Opens a further element of an array of tables. -/
def openElement (fields : Fields) (path : List String) : Option Fields := do
  let key ← path.getLast?
  changeAt false
    (fun _ fields =>
      match fields.lookup key with
      | none => some (fields ++ [(key, tables [[]])])
      | some (tables elements) => some (replace fields key (tables (elements ++ [[]])))
      | some _ => none)
    .header fields path.dropLast

/-- A file in the making: its fields, and the path of the table that lines add to. -/
structure Draft where
  fields : Fields
  current : List String

namespace Draft

def add (draft : Draft) : TomlStatement → Option Draft
  | .set path value => do
    let fields ← changeAt false (fun origin fields => setField origin fields path value) .header
      draft.fields draft.current
    return { draft with fields }
  | .openTable path => return ⟨← Toml.openTable draft.fields path, path⟩
  | .openElement path => return ⟨← Toml.openElement draft.fields path, path⟩

end Draft

/-- The file that a list of lines makes. -/
def ofStatements? (statements : List TomlStatement) : Option Toml := do
  let draft ← statements.foldlM Draft.add ⟨[], []⟩
  return table .header draft.fields

end Toml

end TrafficMeter
