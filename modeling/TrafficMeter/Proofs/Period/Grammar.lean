import TrafficMeter.Period.Parser
import TrafficMeter.Proofs.Number.Numeral
import TrafficMeter.Proofs.Text.Cut

set_option autoImplicit false

namespace TrafficMeter.Period

/-- The parts of an entry: what stands before its first dash, and what follows if there is one. -/
inductive Parts : List Char → List Char → Option (List Char) → Prop
  | undivided (year : List Char) (whole : '-' ∉ year) : Parts year year none
  | divided (year month : List Char) (first : '-' ∉ year) :
      Parts (year ++ '-' :: month) year (some month)

/-- What an entry without blanks around it comes to. The year is judged first, so that a month
cannot be at fault behind a year that is. -/
inductive Reads (limits : YearLimits) (entry : List Char) : Except PeriodFault Period → Prop
  | malformedYear {year : List Char} {rest : Option (List Char)} (parts : Parts entry year rest)
      (wrong : ¬ Decimal.DigitsUpTo 4 year) :
      Reads limits entry (.error (.malformed (String.ofList entry)))
  | yearOutside {year : List Char} {rest : Option (List Char)} {number : Nat}
      (parts : Parts entry year rest) (numeral : Decimal.Numeral 4 year number)
      (outside : ¬ limits.contains number) :
      Reads limits entry (.error (.yearOutside number limits))
  | year {year : List Char} {number : Nat} (parts : Parts entry year none)
      (numeral : Decimal.Numeral 4 year number) (inside : limits.contains number) :
      Reads limits entry (.ok (.year number))
  | malformedMonth {year month : List Char} {number : Nat} (parts : Parts entry year (some month))
      (numeral : Decimal.Numeral 4 year number) (inside : limits.contains number)
      (wrong : ¬ Decimal.DigitsUpTo 2 month) :
      Reads limits entry (.error (.malformed (String.ofList entry)))
  | monthOutside {year month : List Char} {number monthNumber : Nat}
      (parts : Parts entry year (some month)) (numeral : Decimal.Numeral 4 year number)
      (inside : limits.contains number) (monthNumeral : Decimal.Numeral 2 month monthNumber)
      (outside : ¬ (1 ≤ monthNumber ∧ monthNumber ≤ 12)) :
      Reads limits entry (.error (.monthOutside monthNumber))
  | month {year month : List Char} {number : Nat} {named : Month}
      (parts : Parts entry year (some month)) (numeral : Decimal.Numeral 4 year number)
      (inside : limits.contains number) (year_eq : named.year = number)
      (monthNumeral : Decimal.Numeral 2 month named.number) :
      Reads limits entry (.ok (.month named))

theorem exists_parts (entry : List Char) : ∃ year rest, Parts entry year rest := by
  by_cases dashed : '-' ∈ entry
  · obtain ⟨year, month, rfl, first⟩ := List.eq_append_cons_of_mem dashed
    exact ⟨year, some month, .divided year month first⟩
  · exact ⟨entry, none, .undivided entry dashed⟩

/-- The parts as the reader finds them. -/
theorem Parts.cut {entry year : List Char} {rest : Option (List Char)}
    (parts : Parts entry year rest) : entry.takeWhile (· ≠ '-') = year ∧
      entry.dropWhile (· ≠ '-') = (rest.map ('-' :: ·)).getD [] := by
  cases parts with
  | undivided _ whole =>
    have others := Text.ne_separator_of_mem '-' entry whole
    exact ⟨List.takeWhile_eq_self_iff.mpr others, List.dropWhile_eq_nil_iff.mpr others⟩
  | divided _ digits first =>
    exact ⟨Text.takeWhile_piece '-' year first digits, Text.dropWhile_piece '-' year first digits⟩

/-- A year of at most four digits lies in the calendar. -/
theorem yearInCalendar_of_numeral {year : List Char} {number : Nat}
    (numeral : Decimal.Numeral 4 year number) : yearInCalendar number := by
  have small := numeral.lt
  simp only [yearInCalendar, Bool.and_eq_true, decide_eq_true_eq]
  omega

section Reader

variable {limits : YearLimits} {entry year : List Char} {rest : Option (List Char)}
  (parts : Parts entry year rest)

theorem parseYear_of_wrong (wrong : ¬ Decimal.DigitsUpTo 4 year) :
    parseYear limits entry year = .error (.malformed (String.ofList entry)) := by
  rw [parseYear, Decimal.number?_eq_none_iff.mpr wrong]

theorem parseYear_of_numeral {number : Nat} (numeral : Decimal.Numeral 4 year number) :
    parseYear limits entry year =
      if limits.contains number then .ok ↑number else .error (.yearOutside number limits) := by
  rw [parseYear, Decimal.number?_eq_some_iff.mpr numeral]

include parts

theorem parseEntry_of_refused {reason : PeriodFault}
    (refused : parseYear limits entry year = .error reason) :
    parseEntry limits entry = .error reason := by
  rw [parseEntry, parts.cut.1, refused]
  rfl

theorem parseEntry_of_accepted {number : Nat}
    (accepted : parseYear limits entry year = .ok ↑number) :
    parseEntry limits entry =
      match rest with
      | none => .ok (.year number)
      | some digits =>
        match Decimal.number? 2 digits with
        | none => .error (.malformed (String.ofList entry))
        | some monthNumber =>
          match Month.ofNumber? number monthNumber with
          | none => .error (.monthOutside monthNumber)
          | some named => .ok (.month named) := by
  rw [parseEntry, parts.cut.1, accepted, parts.cut.2]
  cases rest with
  | none => rfl
  | some digits => rfl

end Reader

/-- The reader follows each rule. -/
theorem parseEntry_of_reads {limits : YearLimits} {entry : List Char}
    {outcome : Except PeriodFault Period} (reads : Reads limits entry outcome) :
    parseEntry limits entry = outcome := by
  cases reads with
  | malformedYear parts wrong => exact parseEntry_of_refused parts (parseYear_of_wrong wrong)
  | yearOutside parts numeral outside =>
    apply parseEntry_of_refused parts
    rw [parseYear_of_numeral numeral, if_neg outside]
  | year parts numeral inside =>
    exact parseEntry_of_accepted parts (by rw [parseYear_of_numeral numeral, if_pos inside])
  | malformedMonth parts numeral inside wrong =>
    rw [parseEntry_of_accepted parts (by rw [parseYear_of_numeral numeral, if_pos inside])]
    simp only [Decimal.number?_eq_none_iff.mpr wrong]
  | monthOutside parts numeral inside monthNumeral outside =>
    rw [parseEntry_of_accepted parts (by rw [parseYear_of_numeral numeral, if_pos inside])]
    simp only [Decimal.number?_eq_some_iff.mpr monthNumeral, Month.ofNumber?, outside, and_false,
      ↓reduceIte]
  | month parts numeral inside year_eq monthNumeral =>
    have known := yearInCalendar_of_numeral numeral
    have named_eq := (Month.ofNumber?_eq_some_iff _ _ _).mpr ⟨year_eq ▸ known, year_eq, rfl⟩
    rw [parseEntry_of_accepted parts (by rw [parseYear_of_numeral numeral, if_pos inside])]
    simp only [Decimal.number?_eq_some_iff.mpr monthNumeral, named_eq]

/-- The rules leave no entry out. -/
theorem exists_reads (limits : YearLimits) (entry : List Char) :
    ∃ outcome, Reads limits entry outcome := by
  obtain ⟨year, rest, parts⟩ := exists_parts entry
  by_cases short : Decimal.DigitsUpTo 4 year
  case neg => exact ⟨_, .malformedYear parts short⟩
  have numeral := short.numeral
  by_cases inside : limits.contains (Decimal.value year)
  case neg => exact ⟨_, .yearOutside parts numeral inside⟩
  cases rest with
  | none => exact ⟨_, .year parts numeral inside⟩
  | some digits =>
    by_cases monthShort : Decimal.DigitsUpTo 2 digits
    case neg => exact ⟨_, .malformedMonth parts numeral inside monthShort⟩
    have monthNumeral := monthShort.numeral
    by_cases numbered : 1 ≤ Decimal.value digits ∧ Decimal.value digits ≤ 12
    · have number_eq := Month.number_ofNumber (Decimal.value year) _ numbered.1 numbered.2
      rw [← number_eq] at monthNumeral
      exact ⟨_, .month parts numeral inside
        (Month.year_ofNumber _ _ numbered.1 numbered.2) monthNumeral⟩
    · exact ⟨_, .monthOutside parts numeral inside monthNumeral numbered⟩

theorem parseEntry_eq_iff (limits : YearLimits) (entry : List Char)
    (outcome : Except PeriodFault Period) :
    parseEntry limits entry = outcome ↔ Reads limits entry outcome := by
  constructor
  · rintro rfl
    obtain ⟨found, reads⟩ := exists_reads limits entry
    rwa [parseEntry_of_reads reads]
  · exact parseEntry_of_reads

/-- An entered period is read as the rules say, once the blanks around it are gone, and in no other
way. -/
theorem parse_follows_grammar (limits : YearLimits) (input : String)
    (outcome : Except PeriodFault Period) :
    parse limits input = outcome ↔
      ∃ entry, Text.Trims input.toList entry ∧ Reads limits entry outcome := by
  rw [parse, parseEntry_eq_iff]
  simp only [← Text.trim_eq_iff, exists_eq_left']

-- a year that is not accepted hides a month that is none
example : parse .standard "1999-x" = .error (.yearOutside 1999 .standard) := rfl

end TrafficMeter.Period
