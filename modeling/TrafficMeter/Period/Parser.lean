import TrafficMeter.Period.Range
import TrafficMeter.Text.Blank
import TrafficMeter.Text.Quoted

set_option autoImplicit false

namespace TrafficMeter

def PeriodFault.message : PeriodFault → String
  | malformed input =>
    "period must be YYYY or YYYY-MM, got " ++ String.ofList (Text.quoted input.toList)
  | yearOutside year limits =>
    "year " ++ Decimal.signedText year ++ " is outside the valid window " ++
      Decimal.signedText limits.first ++ "..=" ++ Decimal.signedText limits.last
  | monthOutside number => "month " ++ Decimal.text number ++ " is outside 1..=12"
  | mismatch period kind => "period " ++ period.id ++ " does not fit range " ++ kind.text

namespace Period

/-- Reads the year of an entry, which must lie in the limits. -/
def parseYear (limits : YearLimits) (entry digits : List Char) : Except PeriodFault Int :=
  match Decimal.number? 4 digits with
  | none => .error (.malformed (String.ofList entry))
  | some number =>
    if limits.contains number then .ok number else .error (.yearOutside number limits)

/-- Reads `YYYY` or `YYYY-MM` without blanks. The year is judged before the month is read. -/
def parseEntry (limits : YearLimits) (entry : List Char) : Except PeriodFault Period := do
  let chosen ← parseYear limits entry (entry.takeWhile (· ≠ '-'))
  match entry.dropWhile (· ≠ '-') with
  | [] => return .year chosen
  | _ :: digits =>
    match Decimal.number? 2 digits with
    | none => throw (.malformed (String.ofList entry))
    | some number =>
      match Month.ofNumber? chosen number with
      | none => throw (.monthOutside number)
      | some named => return .month named

/-- Reads an entered period; blanks around it do not count. -/
def parse (limits : YearLimits) (input : String) : Except PeriodFault Period :=
  parseEntry limits (Text.trim input.toList)

end Period

end TrafficMeter
