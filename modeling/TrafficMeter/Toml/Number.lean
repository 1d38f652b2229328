import TrafficMeter.Json.Token
import TrafficMeter.Number.DecimalReal
import TrafficMeter.Toml.Basic

set_option autoImplicit false

namespace TrafficMeter.Toml

/-- The sign at the start, if there is one, and what follows it. -/
def splitSign : List Char → Option Char × List Char
  | '-' :: rest => (some '-', rest)
  | '+' :: rest => (some '+', rest)
  | chars => (none, chars)

/-- The value of decimal digits behind their sign. -/
def signedValue (sign : Option Char) (digits : List Char) : Int :=
  if sign = some '-' then -(Decimal.value digits : Int) else Decimal.value digits

/-- Whether each underscore stands between two digits. A sign that opens the number does as the
first of them, so the caller says whether one went before. -/
def isGrouped (isDigit : Char → Bool) (behindDigit : Bool) : List Char → Bool
  | [] => true
  | '_' :: rest => behindDigit && rest.head?.any isDigit && isGrouped isDigit false rest
  | char :: rest => isGrouped isDigit (isDigit char) rest

/-- Takes out the underscores that group digits. -/
def ungrouped (chars : List Char) : List Char := chars.filter (· ≠ '_')

/-- A digit of a base up to sixteen. -/
def isBaseDigit (base : Nat) (char : Char) : Bool := (hexValue? char).any (· < base)

/-- An integer has at most 128 bits, signed or unsigned. -/
def ofInt (value : Int) : Toml :=
  if -(Nat.pow 2 127 : Int) ≤ value ∧ value < (Nat.pow 2 128 : Int) then int value else unreadable

/-- Digits of a power-of-two base behind its mark, which takes no sign. The mark alone has no
value. -/
def basedInt? (base : Nat) (chars : List Char) : Option Toml :=
  let digits := ungrouped chars
  if digits.all (isBaseDigit base) ∧ isGrouped (isBaseDigit base) false chars then
    if digits = [] then some unreadable
    else
      let value := digits.foldl (fun total char => base * total + (hexValue? char).getD 0) 0
      some (ofInt value)
  else none

/-- Digits behind a sign, of which the first is no needless zero. Other characters behind an
underscore leave the number without a value. -/
def decimalInt? (sign : Option Char) (chars : List Char) : Option Toml :=
  let hasNeedlessZero := 2 ≤ chars.length ∧ chars.head? = some '0'
  if chars ≠ [] ∧ ¬ hasNeedlessZero ∧ isGrouped (isBaseDigit 16) sign.isSome chars then
    let digits := ungrouped chars
    if digits.all Char.isDigit then some (ofInt (signedValue sign digits)) else some unreadable
  else none

/-- One digit or more at the start, which underscores may group, and what follows them. -/
def digits? (chars : List Char) : Option (List Char × List Char) :=
  let isPart := fun (char : Char) => char.isDigit || char = '_'
  let digits := ungrouped (chars.takeWhile isPart)
  if digits = [] then none else some (digits, chars.dropWhile isPart)

/-- A number with a fraction, an exponent or both, behind a sign. Its whole part has no needless
zero in front. -/
def decimalReal? (sign : Option Char) (chars : List Char) : Option DecimalReal := do
  let (whole, rest) ← digits? chars
  let (fraction, rest) ←
    match rest with
    | '.' :: rest => digits? rest
    | _ => some ([], rest)
  let (exponent, rest) ←
    match rest with
    | 'e' :: rest | 'E' :: rest => do
      let (sign, rest) := splitSign rest
      let (digits, rest) ← digits? rest
      some (signedValue sign digits, rest)
    | _ => some (0, rest)
  let hasNeedlessZero := 2 ≤ whole.length ∧ chars.head? = some '0'
  if rest = [] ∧ ¬ hasNeedlessZero ∧ isGrouped Char.isDigit sign.isSome chars then
    some ⟨sign = some '-', Decimal.value (whole ++ fraction), exponent - fraction.length⟩
  else none

/-- A number is told by its first characters, and one that does not fit has no value. -/
def number? (chars : List Char) : Option Toml :=
  match splitSign chars with
  | (none, '0' :: 'x' :: digits) => basedInt? 16 digits
  | (none, '0' :: 'o' :: digits) => basedInt? 8 digits
  | (none, '0' :: 'b' :: digits) => basedInt? 2 digits
  | (sign, unsigned) =>
    let rest := unsigned.dropWhile Char.isDigit
    if rest.any fun char => char = '.' || char = 'e' || char = 'E' then
      (decimalReal? sign unsigned).map fun value => if value.isFinite then real else unreadable
    else if rest = [] ∨ rest.head? = some '_' then decimalInt? sign unsigned
    else none

end TrafficMeter.Toml
