import TrafficMeter.Calendar.Month
import TrafficMeter.Number.Decimal

set_option autoImplicit false

namespace TrafficMeter.Toml

/-- The value of exactly two digits at the start, and what follows them. -/
def twoDigits? : List Char → Option (Nat × List Char)
  | a :: b :: rest =>
    if a.isDigit ∧ b.isDigit then some (Decimal.value [a, b], rest) else none
  | _ => none

/-- A day of the calendar at the start, and what follows it. -/
def date? (chars : List Char) : Option (List Char) := do
  let (century, rest) ← twoDigits? chars
  let (ofCentury, rest) ← twoDigits? rest
  let '-' :: rest := rest | none
  let (month, rest) ← twoDigits? rest
  let '-' :: rest := rest | none
  let (day, rest) ← twoDigits? rest
  let leap := isLeapYear ((100 * century + ofCentury : Nat) : Int)
  if 1 ≤ month ∧ month ≤ 12 ∧ 1 ≤ day ∧ day ≤ monthLength leap month then some rest else none

/-- A time of day at the start, of which the seconds may be left out, and what follows it. -/
def timeOfDay? (chars : List Char) : Option (List Char) := do
  let (hour, rest) ← twoDigits? chars
  let ':' :: rest := rest | none
  let (minute, rest) ← twoDigits? rest
  if 23 < hour ∨ 59 < minute then none
  else
    match rest with
    | ':' :: rest => do
      let (second, rest) ← twoDigits? rest
      if 60 < second then none
      else
        match rest with
        | '.' :: rest =>
          if rest.takeWhile Char.isDigit = [] then none else some (rest.dropWhile Char.isDigit)
        | _ => some rest
    | _ => some rest

/-- A distance from UTC of less than a day, and nothing else. -/
def isOffset : List Char → Bool
  | ['Z'] | ['z'] => true
  | sign :: rest =>
    (sign = '+' || sign = '-') &&
      match twoDigits? rest with
      | some (hours, ':' :: rest) =>
        match twoDigits? rest with
        | some (minutes, []) => hours ≤ 23 && minutes ≤ 59
        | _ => false
      | _ => false
  | [] => false

/-- A date, a time of day, or both with or without a distance from UTC. -/
def isTime (chars : List Char) : Bool :=
  timeOfDay? chars = some [] ||
    match date? chars with
    | some [] => true
    | some (separator :: rest) =>
      (separator = 'T' || separator = 't' || separator = ' ') &&
        match timeOfDay? rest with
        | some offset => offset = [] || isOffset offset
        | none => false
    | none => false

end TrafficMeter.Toml
