import TrafficMeter.Toml.Scalar

set_option autoImplicit false

namespace TrafficMeter.Toml

def isBlank (char : Char) : Bool := char = ' ' || char = '\t'

/-- Characters that strings and comments may hold on one line. -/
def isVisible (char : Char) : Bool :=
  char = '\t' || (0x20 ≤ char.toNat && char.toNat ≠ 0x7f)

def skipBlanks (chars : List Char) : List Char := chars.dropWhile isBlank

/-- A line break at the start, and what follows it. -/
def lineBreak? : List Char → Option (List Char × List Char)
  | '\n' :: rest => some (['\n'], rest)
  | '\r' :: '\n' :: rest => some (['\r', '\n'], rest)
  | _ => none

/-- What follows a line break at the start. -/
def lineEnd? (chars : List Char) : Option (List Char) := (lineBreak? chars).map Prod.snd

/-- Skips a comment up to the end of its line. -/
def skipComment? (chars : List Char) : Option (List Char) :=
  match chars with
  | '#' :: rest =>
    let rest := rest.dropWhile isVisible
    if rest = [] ∨ (lineEnd? rest).isSome then some rest else none
  | _ => some chars

/-- Skips blanks, comments and line breaks, of which there are no more than steps. -/
def skipLines? : Nat → List Char → Option (List Char)
  | 0, chars => some chars
  | steps + 1, chars => do
    let rest ← skipComment? (skipBlanks chars)
    match lineEnd? rest with
    | some rest => skipLines? steps rest
    | none => some rest

/-- The character of a code point, unless it is half of a surrogate pair or too large. -/
def charOfCode? (code : Nat) : Option Char :=
  if code < 0xd800 ∨ (0xe000 ≤ code ∧ code ≤ 0x10ffff) then some (Char.ofNat code) else none

/-- Reads a character given by a fixed number of hexadecimal digits. -/
def codeEscape? (count : Nat) (chars : List Char) : Option (Char × List Char) := do
  let digits ← (chars.take count).mapM hexValue?
  if digits.length = count then
    let char ← charOfCode? (digits.foldl (fun code digit => 16 * code + digit) 0)
    return (char, chars.drop count)
  else none

/-- Reads an escape behind its backslash. -/
def escape? : List Char → Option (Char × List Char)
  | 'b' :: rest => some ('\x08', rest)
  | 't' :: rest => some ('\t', rest)
  | 'n' :: rest => some ('\n', rest)
  | 'f' :: rest => some ('\x0c', rest)
  | 'r' :: rest => some ('\r', rest)
  | 'e' :: rest => some ('\x1b', rest)
  | '"' :: rest => some ('"', rest)
  | '\\' :: rest => some ('\\', rest)
  | 'x' :: rest => codeEscape? 2 rest
  | 'u' :: rest => codeEscape? 4 rest
  | 'U' :: rest => codeEscape? 8 rest
  | _ => none

/-- Reads a string on one line up to its closing quote; only double quotes know escapes. -/
def lineString? (quote : Char) : Nat → List Char → Option (List Char × List Char)
  | 0, _ => none
  | steps + 1, chars =>
    match chars with
    | [] => none
    | char :: rest =>
      if char = quote then some ([], rest)
      else if char = '\\' ∧ quote = '"' then do
        let (escaped, rest) ← escape? rest
        let (value, rest) ← lineString? quote steps rest
        return (escaped :: value, rest)
      else if isVisible char then do
        let (value, rest) ← lineString? quote steps rest
        return (char :: value, rest)
      else none

/-- Skips blanks and line breaks, of which there are no more than steps. -/
def skipEmptyLines : Nat → List Char → List Char
  | 0, chars => chars
  | steps + 1, chars =>
    match lineEnd? (skipBlanks chars) with
    | some rest => skipEmptyLines steps rest
    | none => skipBlanks chars

/-- What follows the blanks and line breaks behind a backslash that ends its line, if it ends it. -/
def continuation? (chars : List Char) : Option (List Char) :=
  (lineEnd? (skipBlanks chars)).map (skipEmptyLines chars.length)

/-- Reads a string of several lines up to its three closing quotes, before which up to two more
may belong to it. Line breaks are kept as they are written. -/
def linesString? (quote : Char) : Nat → List Char → Option (List Char × List Char)
  | 0, _ => none
  | steps + 1, chars =>
    let quotes := ((chars.take 5).takeWhile (· = quote)).length
    if 3 ≤ quotes then some (List.replicate (quotes - 3) quote, chars.drop quotes)
    else
      match lineBreak? chars, chars with
      | some (lineBreak, rest), _ => do
        let (value, rest) ← linesString? quote steps rest
        return (lineBreak ++ value, rest)
      | none, '\\' :: rest =>
        if quote = '"' then
          match continuation? rest with
          | some rest => linesString? quote steps rest
          | none => do
            let (escaped, rest) ← escape? rest
            let (value, rest) ← linesString? quote steps rest
            return (escaped :: value, rest)
        else do
          let (value, rest) ← linesString? quote steps rest
          return ('\\' :: value, rest)
      | none, char :: rest =>
        if isVisible char then do
          let (value, rest) ← linesString? quote steps rest
          return (char :: value, rest)
        else none
      | none, [] => none

def isBareKey (char : Char) : Bool := char.isAlphanum || char = '-' || char = '_'

/-- Reads one part of a key. -/
def keyPart? (chars : List Char) : Option (String × List Char) :=
  match chars with
  | '"' :: rest => (lineString? '"' chars.length rest).map fun (key, rest) =>
      (String.ofList key, rest)
  | '\'' :: rest => (lineString? '\'' chars.length rest).map fun (key, rest) =>
      (String.ofList key, rest)
  | _ =>
    match chars.takeWhile isBareKey with
    | [] => none
    | key => some (String.ofList key, chars.dropWhile isBareKey)

/-- Reads a key of so many parts at most between points, and the blanks behind it. -/
def keyWithin : Nat → List Char → Option (List String × List Char)
  | 0, _ => none
  | parts + 1, chars => do
    let (part, rest) ← keyPart? chars
    match skipBlanks rest with
    | '.' :: rest => do
      let (path, rest) ← keyWithin parts (skipBlanks rest)
      return (part :: path, rest)
    | rest => return ([part], rest)

/-- How many parts a key may have, and how many arrays and tables in braces may stand one in
another. -/
def depthLimit : Nat := 80

/-- Reads a whole key, and the blanks behind it. -/
def key? (chars : List Char) : Option (List String × List Char) := keyWithin depthLimit chars

/-- Characters that a value without quotes and brackets may go on with. -/
def isScalarChar (char : Char) : Bool :=
  char ∉ ['=', ',', '[', ']', '{', '}', '#', ' ', '\t', '\r', '\n']

/-- Reads a value without quotes and brackets. A blank may part a date from a time of day. -/
def scalarValue? (chars : List Char) : Option (Toml × List Char) :=
  let first := chars.takeWhile isScalarChar
  let rest := chars.dropWhile isScalarChar
  match date? first, rest with
  | some [], ' ' :: digit :: more =>
    if digit.isDigit then
      let second := (digit :: more).takeWhile isScalarChar
      (scalar? (first ++ ' ' :: second)).map (·, (digit :: more).dropWhile isScalarChar)
    else (scalar? first).map (·, rest)
  | _, _ => (scalar? first).map (·, rest)

/-- Drops a line break right behind the opening quotes. -/
def skipLineEnd (chars : List Char) : List Char := (lineEnd? chars).getD chars

mutual

/-- Reads a value within a number of steps, with room for so many arrays and tables in braces one
in another. -/
def valueWithin : Nat → Nat → List Char → Option (Toml × List Char)
  | 0, _, _ => none
  | steps + 1, room, chars =>
    let textOf := fun (value : List Char × List Char) => (text (String.ofList value.1), value.2)
    match chars, room with
    | '"' :: '"' :: '"' :: rest, _ =>
      (linesString? '"' (chars.length + 1) (skipLineEnd rest)).map textOf
    | '\'' :: '\'' :: '\'' :: rest, _ =>
      (linesString? '\'' (chars.length + 1) (skipLineEnd rest)).map textOf
    | '"' :: rest, _ => (lineString? '"' chars.length rest).map textOf
    | '\'' :: rest, _ => (lineString? '\'' chars.length rest).map textOf
    | '[' :: _, 0 | '{' :: _, 0 => none
    | '[' :: rest, room + 1 =>
      (itemsWithin steps room rest).map fun (items, rest) => (array items, rest)
    | '{' :: rest, room + 1 =>
      (pairsWithin steps room [] rest).map fun (fields, rest) => (table .braces fields, rest)
    | _, _ => scalarValue? chars

/-- Reads the items of an array up to its end, before which a comma may stand. -/
def itemsWithin : Nat → Nat → List Char → Option (List Toml × List Char)
  | 0, _, _ => none
  | steps + 1, room, chars => do
    let start ← skipLines? chars.length chars
    match start with
    | ']' :: rest => return ([], rest)
    | _ =>
      let (item, rest) ← valueWithin steps room start
      let rest ← skipLines? chars.length rest
      match rest with
      | ']' :: rest => return ([item], rest)
      | ',' :: rest =>
        let (items, rest) ← itemsWithin steps room rest
        return (item :: items, rest)
      | _ => none

/-- Reads the fields of a table in braces up to its end, before which a comma may stand. Lines may
break anywhere but within a key. -/
def pairsWithin : Nat → Nat → Fields → List Char → Option (Fields × List Char)
  | 0, _, _, _ => none
  | steps + 1, room, fields, chars => do
    let start ← skipLines? chars.length chars
    match start with
    | '}' :: rest => return (fields, rest)
    | _ =>
      let (path, rest) ← key? start
      let '=' :: rest ← skipLines? chars.length rest | none
      let (value, rest) ← valueWithin steps room (← skipLines? chars.length rest)
      let fields ← setField .braces fields path value
      let rest ← skipLines? chars.length rest
      match rest with
      | '}' :: rest => return (fields, rest)
      | ',' :: rest => pairsWithin steps room fields rest
      | _ => none

end

/-- Reads a statement at the start of a line. -/
def statement? (chars : List Char) : Option (TomlStatement × List Char) := do
  match chars with
  | '[' :: '[' :: rest =>
    let (path, rest) ← key? (skipBlanks rest)
    let ']' :: ']' :: rest := rest | none
    return (.openElement path, rest)
  | '[' :: rest =>
    let (path, rest) ← key? (skipBlanks rest)
    let ']' :: rest := rest | none
    return (.openTable path, rest)
  | _ =>
    let (path, rest) ← key? chars
    let '=' :: rest := rest | none
    let (value, rest) ← valueWithin (2 * rest.length + 2) depthLimit (skipBlanks rest)
    return (.set path value, rest)

/-- Reads the statements of a file, one a line. -/
def statementsWithin : Nat → List Char → Option (List TomlStatement)
  | 0, _ => none
  | steps + 1, chars => do
    match ← skipLines? chars.length chars with
    | [] => return []
    | start =>
      let (statement, rest) ← statement? start
      let rest ← skipComment? (skipBlanks rest)
      if rest = [] then return [statement]
      else return statement :: (← statementsWithin steps (← lineEnd? rest))

/-- A byte order mark may stand before the first line. -/
def parse? (text : String) : Option Toml := do
  let chars :=
    match text.toList with
    | '\ufeff' :: rest => rest
    | chars => chars
  ofStatements? (← statementsWithin (chars.length + 1) chars)

end TrafficMeter.Toml
