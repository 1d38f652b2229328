import TrafficMeter.Json.Basic
import TrafficMeter.Number.Decimal

set_option autoImplicit false

namespace TrafficMeter

inductive JsonToken
  | openBrace
  | closeBrace
  | openBracket
  | closeBracket
  | colon
  | comma
  | null
  | bool (value : Bool)
  | int (value : Int)
  | real (value : DecimalReal)
  | text (value : JsonText)
deriving DecidableEq, Repr

/-- A piece of a string literal: a character, or half of a surrogate pair that was escaped. -/
inductive TextUnit
  | char (value : Char)
  | highHalf (code : Nat)
  | lowHalf (code : Nat)
deriving DecidableEq, Repr

namespace TextUnit

/-- The piece that a four-digit escape stands for. -/
def ofCode (code : Nat) : TextUnit :=
  if 0xd800 ≤ code ∧ code ≤ 0xdbff then highHalf code
  else if 0xdc00 ≤ code ∧ code ≤ 0xdfff then lowHalf code
  else char (Char.ofNat code)

/-- Joins halves that stand side by side; other halves make no text. -/
def join : List TextUnit → Option (List Char)
  | [] => some []
  | .char value :: rest => (join rest).map (value :: ·)
  | .highHalf high :: .lowHalf low :: rest =>
    (join rest).map (Char.ofNat (0x10000 + (high - 0xd800) * 0x400 + (low - 0xdc00)) :: ·)
  | _ => none

end TextUnit

def hexValue? (char : Char) : Option Nat :=
  if '0' ≤ char ∧ char ≤ '9' then some (char.toNat - '0'.toNat)
  else if 'a' ≤ char ∧ char ≤ 'f' then some (char.toNat - 'a'.toNat + 10)
  else if 'A' ≤ char ∧ char ≤ 'F' then some (char.toNat - 'A'.toNat + 10)
  else none

namespace JsonToken

/-- Blanks between tokens. -/
def isSpace (char : Char) : Bool :=
  char = ' ' || char = '\t' || char = '\n' || char = '\r'

/-- The character that a one-letter escape stands for. -/
def escaped? : Char → Option Char
  | '"' => some '"'
  | '\\' => some '\\'
  | '/' => some '/'
  | 'b' => some '\x08'
  | 'f' => some '\x0c'
  | 'n' => some '\n'
  | 'r' => some '\r'
  | 't' => some '\t'
  | _ => none

/-- Reads a string literal behind its opening quote. -/
def units? : List Char → Option (List TextUnit × List Char)
  | [] => none
  | '"' :: rest => some ([], rest)
  | '\\' :: 'u' :: a :: b :: c :: d :: rest => do
    let a ← hexValue? a
    let b ← hexValue? b
    let c ← hexValue? c
    let d ← hexValue? d
    let (units, rest) ← units? rest
    return (TextUnit.ofCode (((a * 16 + b) * 16 + c) * 16 + d) :: units, rest)
  | '\\' :: letter :: rest => do
    let char ← escaped? letter
    let (units, rest) ← units? rest
    return (.char char :: units, rest)
  | char :: rest =>
    if char.toNat < 0x20 ∨ char = '\\' then none
    else do
      let (units, rest) ← units? rest
      return (.char char :: units, rest)

/-- Reads the whole part of a number: a zero, or digits that do not begin with one. -/
def whole? (chars : List Char) : Option (List Char × List Char) :=
  match chars with
  | '0' :: rest => some (['0'], rest)
  | _ =>
    match chars.takeWhile Char.isDigit with
    | [] => none
    | digits => some (digits, chars.dropWhile Char.isDigit)

/-- Reads a point and at least one digit, if there is a point. -/
def fraction? (chars : List Char) : Option (Option (List Char) × List Char) :=
  match chars with
  | '.' :: rest =>
    match rest.takeWhile Char.isDigit with
    | [] => none
    | digits => some (some digits, rest.dropWhile Char.isDigit)
  | _ => some (none, chars)

/-- Reads the digits of an exponent. -/
def exponentDigits? (negative : Bool) (chars : List Char) : Option (Option Int × List Char) :=
  match chars.takeWhile Char.isDigit with
  | [] => none
  | digits =>
    let value : Int := Decimal.value digits
    some (some (if negative then -value else value), chars.dropWhile Char.isDigit)

/-- Reads an exponent, if there is one. -/
def exponent? (chars : List Char) : Option (Option Int × List Char) :=
  match chars with
  | letter :: rest =>
    if letter = 'e' ∨ letter = 'E' then
      match rest with
      | '+' :: digits => exponentDigits? false digits
      | '-' :: digits => exponentDigits? true digits
      | digits => exponentDigits? false digits
    else some (none, chars)
  | [] => some (none, chars)

/-- Reads a number behind its sign. -/
def number? (negative : Bool) (chars : List Char) : Option (JsonToken × List Char) := do
  let (whole, rest) ← whole? chars
  let (fraction, rest) ← fraction? rest
  let (exponent, rest) ← exponent? rest
  let digits := Decimal.value (whole ++ fraction.getD [])
  let shift := exponent.getD 0 - (fraction.getD []).length
  let token :=
    if fraction = none ∧ exponent = none ∧ ¬(negative ∧ digits = 0) then
      .int (if negative then -(digits : Int) else digits)
    else .real ⟨negative, digits, shift⟩
  return (token, rest)

/-- Reads one token at the very start. -/
def next? (chars : List Char) : Option (JsonToken × List Char) :=
  match chars with
  | '{' :: rest => some (.openBrace, rest)
  | '}' :: rest => some (.closeBrace, rest)
  | '[' :: rest => some (.openBracket, rest)
  | ']' :: rest => some (.closeBracket, rest)
  | ':' :: rest => some (.colon, rest)
  | ',' :: rest => some (.comma, rest)
  | 'n' :: 'u' :: 'l' :: 'l' :: rest => some (.null, rest)
  | 't' :: 'r' :: 'u' :: 'e' :: rest => some (.bool true, rest)
  | 'f' :: 'a' :: 'l' :: 's' :: 'e' :: rest => some (.bool false, rest)
  | '"' :: rest => (units? rest).map fun (units, rest) =>
      (.text ((TextUnit.join units).map String.ofList), rest)
  | '-' :: rest => number? true rest
  | _ => number? false chars

/-- Reads all tokens within a number of steps that the length of the text bounds. -/
def allWithin : Nat → List Char → Option (List JsonToken)
  | 0, chars => if chars = [] then some [] else none
  | steps + 1, chars =>
    match chars with
    | [] => some []
    | char :: rest =>
      if isSpace char then allWithin steps rest
      else do
        let (token, rest) ← next? (char :: rest)
        let tokens ← allWithin steps rest
        return token :: tokens

def all? (chars : List Char) : Option (List JsonToken) := allWithin chars.length chars

end JsonToken

end TrafficMeter
