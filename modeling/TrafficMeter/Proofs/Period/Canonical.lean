import TrafficMeter.Proofs.Calendar.Days
import TrafficMeter.Proofs.Period.Grammar

set_option autoImplicit false

namespace TrafficMeter

theorem Month.eq_of_year_of_number {month other : Month} (year_eq : month.year = other.year)
    (number_eq : month.number = other.number) : month = other := by
  rw [← month.ofNumber_year_number, year_eq, number_eq, other.ofNumber_year_number]

namespace Month

theorem not_space_mem_name (month : Month) : ' ' ∉ month.name.toList := by
  have checked : ∀ number : Fin 13, ' ' ∉ (nameOf number).toList := by decide
  have numbered := month.number_le
  exact checked ⟨month.number, by omega⟩

theorem number_eq_of_name_eq {month other : Month} (same : month.name = other.name) :
    month.number = other.number := by
  have checked : ∀ number otherNumber : Fin 13, 1 ≤ number.val → 1 ≤ otherNumber.val →
      nameOf number = nameOf otherNumber → number = otherNumber := by decide
  have numbered := month.number_le
  have otherNumbered := other.number_le
  exact congrArg Fin.val (checked ⟨month.number, by omega⟩ ⟨other.number, by omega⟩
    month.one_le_number other.one_le_number same)

end Month

theorem Text.not_isBlank_of_isDigit (char : Char) (digit : char.isDigit) : ¬ isBlank char := by
  have bounds := Decimal.code_of_isDigit char digit
  simp only [isBlank, Bool.or_eq_true, Bool.and_eq_true, decide_eq_true_eq, beq_iff_eq]
  omega

namespace Period

/-- The year that a period is or lies in. -/
def yearShown : Period → Int
  | .month shown => shown.year
  | .year shown => shown

theorem not_isBlank_of_mem_text (period : Period) :
    ∀ char ∈ period.text, ¬ Text.isBlank char := by
  have signed (year : Int) : ∀ char ∈ Decimal.signed 4 year, ¬ Text.isBlank char := by
    obtain ⟨first, rest, signed_eq, begins, digits⟩ := Decimal.exists_signed 4 year
    rw [signed_eq, List.forall_mem_cons]
    refine ⟨?_, fun char listed => Text.not_isBlank_of_isDigit char (digits char listed)⟩
    rcases begins with rfl | digit
    · decide
    · exact Text.not_isBlank_of_isDigit first digit
  cases period with
  | year shown => exact signed shown
  | month shown =>
    intro char listed
    rcases List.mem_append.mp listed with inYear | behind
    · exact signed shown.year char inYear
    · rcases List.mem_cons.mp behind with rfl | inNumber
      · decide
      · exact Text.not_isBlank_of_isDigit char
          (Decimal.isDigit_of_mem_padded 2 shown.number char inNumber)

/-- A printed period is read as it stands. -/
theorem parse_id_of_reads {limits : YearLimits} {period : Period}
    {outcome : Except PeriodFault Period} (reads : Reads limits period.text outcome) :
    parse limits period.id = outcome := by
  rw [parse, id, String.toList_ofList,
    Text.trim_of_no_blanks _ period.not_isBlank_of_mem_text]
  exact parseEntry_of_reads reads

section Written

variable (limits : YearLimits)

theorem parts_text_year (number : Nat) :
    Parts (Period.year number).text (Decimal.padded 4 number) none := by
  rw [text, Decimal.signed_of_nonneg]
  exact .undivided _ (Decimal.not_dash_mem_padded 4 number)

variable (period : Period) (number : Nat)

theorem parts_text_month (shown : Month) (year_eq : shown.year = number) :
    Parts (Period.month shown).text (Decimal.padded 4 number)
      (some (Decimal.padded 2 shown.number)) := by
  rw [text, Month.text, year_eq, Decimal.signed_of_nonneg]
  exact .divided _ _ (Decimal.not_dash_mem_padded 4 number)

variable (year_eq : period.yearShown = number)

include year_eq

theorem exists_parts_text : ∃ rest, Parts period.text (Decimal.padded 4 number) rest := by
  cases period with
  | month shown => exact ⟨_, parts_text_month number shown year_eq⟩
  | year shown =>
    cases year_eq
    exact ⟨_, parts_text_year number⟩

/-- Four places have no room for a year of five digits. -/
theorem parse_id_of_large (large : 9999 < number) :
    parse limits period.id = .error (.malformed period.id) := by
  obtain ⟨rest, parts⟩ := period.exists_parts_text number year_eq
  apply parse_id_of_reads
  apply Reads.malformedYear parts
  intro short
  have bound := short.numeral.lt
  rw [Decimal.padded, Decimal.value_zeros_append] at bound
  omega

variable (small : number ≤ 9999)

include small

theorem parse_id_of_outside (outside : ¬ limits.contains number) :
    parse limits period.id = .error (.yearOutside number limits) := by
  obtain ⟨rest, parts⟩ := period.exists_parts_text number year_eq
  have numeral := Decimal.numeral_padded (by decide : 0 < 4) (by omega : number < 10 ^ 4)
  exact parse_id_of_reads (.yearOutside parts numeral outside)

theorem parse_id_of_inside (inside : limits.contains number) :
    parse limits period.id = .ok period := by
  have numeral := Decimal.numeral_padded (by decide : 0 < 4) (by omega : number < 10 ^ 4)
  apply parse_id_of_reads
  cases period with
  | month shown =>
    have numbered := shown.number_le
    exact .month (parts_text_month number shown year_eq) numeral inside year_eq
      (Decimal.numeral_padded (by decide) (by omega))
  | year shown =>
    cases year_eq
    exact .year (parts_text_year number) numeral inside

end Written

section Outcome

variable (limits : YearLimits) (period : Period) (nonnegative : 0 ≤ period.yearShown)

include nonnegative

/-- What a printed period is read as. -/
theorem parse_id : parse limits period.id =
    if 9999 < period.yearShown then .error (.malformed period.id)
    else if limits.contains period.yearShown then .ok period
    else .error (.yearOutside period.yearShown limits) := by
  obtain ⟨number, year_eq⟩ := Int.eq_ofNat_of_zero_le nonnegative
  rw [year_eq]
  by_cases large : 9999 < (number : Int)
  · rw [if_pos large]
    exact period.parse_id_of_large limits number year_eq (by omega)
  · rw [if_neg large]
    by_cases inside : limits.contains number
    · rw [if_pos inside]
      exact period.parse_id_of_inside limits number year_eq (by omega) inside
    · rw [if_neg inside]
      exact period.parse_id_of_outside limits number year_eq (by omega) inside

theorem parse_id_eq_ok_iff : parse limits period.id = .ok period ↔
    period.yearShown ≤ 9999 ∧ limits.contains period.yearShown := by
  rw [period.parse_id limits nonnegative]
  by_cases large : 9999 < period.yearShown
  · rw [if_pos large]
    exact iff_of_false nofun fun accepted => by omega
  · rw [if_neg large]
    by_cases inside : limits.contains period.yearShown
    · rw [if_pos inside]
      exact iff_of_true rfl ⟨by omega, inside⟩
    · rw [if_neg inside]
      exact iff_of_false nofun fun accepted => inside accepted.2

end Outcome

/-- Whatever is accepted has a year of four digits at most, among those accepted. -/
theorem yearShown_of_parse (limits : YearLimits) (input : String) (period : Period)
    (parsed : parse limits input = .ok period) :
    ∃ number : Nat, period.yearShown = number ∧ number ≤ 9999 ∧ limits.contains number := by
  have reads := (parseEntry_eq_iff limits _ _).mp parsed
  cases reads with
  | year parts numeral inside =>
    have bound := numeral.lt
    exact ⟨_, rfl, by omega, inside⟩
  | month parts numeral inside year_eq monthNumeral =>
    have bound := numeral.lt
    exact ⟨_, year_eq, by omega, inside⟩

/-- Periods are told apart if months are, if years are and if no month passes for a year. -/
theorem injective_of_kinds {α : Type} (write : Period → α)
    (months : ∀ shown other : Month, write (.month shown) = write (.month other) → shown = other)
    (years : ∀ shown other : Int, write (.year shown) = write (.year other) → shown = other)
    (apart : ∀ (shown : Month) (other : Int), write (.month shown) ≠ write (.year other)) :
    Function.Injective write := by
  intro period other same
  cases period with
  | month shown =>
    cases other with
    | month otherShown => rw [months shown otherShown same]
    | year otherShown => exact absurd same (apart shown otherShown)
  | year shown =>
    cases other with
    | month otherShown => exact absurd same.symm (apart otherShown shown)
    | year otherShown => rw [years shown otherShown same]

/-- Only the text of a month has a dash behind its first place. -/
theorem text_month_ne_text_year (shown : Month) (year : Int) :
    (Period.month shown).text ≠ (Period.year year).text := by
  intro same
  obtain ⟨first, rest, year_eq, _⟩ := Decimal.exists_signed 4 shown.year
  obtain ⟨otherFirst, otherRest, otherYear_eq, _, digits⟩ := Decimal.exists_signed 4 year
  rw [text, Month.text, year_eq, text, otherYear_eq, List.cons_append] at same
  have dash := digits '-' (by rw [← (List.cons.inj same).2]; simp)
  exact absurd dash (by decide)

/-- No two periods are written alike. -/
theorem text_injective : Function.Injective text := by
  refine injective_of_kinds text ?_ (fun _ _ same => Decimal.signed_injective 4 same)
    text_month_ne_text_year
  intro shown other same
  have numbered := shown.number_le
  have otherNumbered := other.number_le
  -- what comes from the dash on is equally long in both
  have length_eq : ('-' :: Decimal.padded 2 shown.number).length =
      ('-' :: Decimal.padded 2 other.number).length := by
    rw [List.length_cons, List.length_cons, Decimal.length_padded (by decide) (by omega),
      Decimal.length_padded (by decide) (by omega)]
  obtain ⟨year_eq, behind_eq⟩ := List.append_inj' same length_eq
  exact Month.eq_of_year_of_number (Decimal.signed_injective 4 year_eq)
    (Decimal.padded_injective 2 (List.cons.inj behind_eq).2)

theorem id_injective : Function.Injective id := by
  intro period other same
  exact text_injective (String.ofList_injective same)

section Captions

theorem toList_caption_month (shown : Month) :
    (Period.month shown).caption.toList =
      shown.name.toList ++ ' ' :: Decimal.signed 0 shown.year := by
  have space : " ".toList = [' '] := rfl
  simp only [caption, Month.caption, Decimal.signedText, String.toList_append, space,
    String.toList_ofList, List.append_assoc, List.cons_append, List.nil_append]

theorem toList_caption_year (shown : Int) :
    (Period.year shown).caption.toList = Decimal.signed 0 shown := by
  rw [caption, Decimal.signedText, String.toList_ofList]

theorem caption_month_ne_caption_year (shown : Month) (year : Int) :
    (Period.month shown).caption ≠ (Period.year year).caption := by
  intro same
  apply Decimal.not_space_mem_signed 0 year
  rw [← toList_caption_year, ← same, toList_caption_month]
  simp

/-- No two periods are called alike. -/
theorem caption_injective : Function.Injective caption := by
  refine injective_of_kinds caption ?_ ?_ caption_month_ne_caption_year
  · intro shown other same
    have parts := congrArg String.toList same
    rw [toList_caption_month, toList_caption_month, List.append_cons_inj_of_notMem
      shown.not_space_mem_name (Decimal.not_space_mem_signed 0 shown.year)] at parts
    exact Month.eq_of_year_of_number (Decimal.signed_injective 0 parts.2.2)
      (Month.number_eq_of_name_eq (String.toList_injective parts.1))
  · intro shown other same
    have texts := congrArg String.toList same
    rw [toList_caption_year, toList_caption_year] at texts
    exact Decimal.signed_injective 0 texts

end Captions

/-- Printed periods are the canonical entries. Each period whose year can be entered is read back
from its text, so an accepted entry and the text of what it was read as come to the same, and two
entries come to the same exactly if what they were read as is printed alike. -/
theorem text_is_canonical (limits : YearLimits) :
    (∀ period : Period, limits.contains period.yearShown →
        0 ≤ period.yearShown ∧ period.yearShown ≤ 9999 → parse limits period.id = .ok period) ∧
      (∀ input period, parse limits input = .ok period → parse limits period.id = .ok period) ∧
      ∀ input period otherInput otherPeriod, parse limits input = .ok period →
        parse limits otherInput = .ok otherPeriod →
        (period = otherPeriod ↔ period.id = otherPeriod.id) := by
  refine ⟨?_, ?_, ?_⟩
  · intro period inside ⟨nonnegative, small⟩
    exact (period.parse_id_eq_ok_iff limits nonnegative).mpr ⟨small, inside⟩
  · intro input period parsed
    obtain ⟨number, year_eq, small, inside⟩ := yearShown_of_parse limits input period parsed
    exact period.parse_id_of_inside limits number year_eq small inside
  · intro _ period _ otherPeriod _ _
    exact id_injective.eq_iff.symm

/-- A month of the year five, entered with too few zeros and with blanks around it. -/
theorem text_is_canonical_early_year :
    parse ⟨0, 9999⟩ " 005-2\u2003" = .ok (.month (.ofNumber 5 2)) ∧
      (Period.month (.ofNumber 5 2)).id = "0005-02" ∧
      parse ⟨0, 9999⟩ (Period.month (.ofNumber 5 2)).id = .ok (.month (.ofNumber 5 2)) ∧
      parse ⟨0, 9999⟩ (Period.year 5).id = .ok (.year 5) ∧
      (Period.month (.ofNumber 5 2) = .year 5 ↔
        (Period.month (.ofNumber 5 2)).id = (Period.year 5).id) := by
  obtain ⟨written, accepted, alike⟩ := text_is_canonical ⟨0, 9999⟩
  have month_read : parse ⟨0, 9999⟩ " 005-2\u2003" = .ok (.month (.ofNumber 5 2)) := rfl
  have year_read : parse ⟨0, 9999⟩ "5" = .ok (.year 5) := rfl
  exact ⟨month_read, rfl, accepted _ _ month_read, written (.year 5) (by decide) (by decide),
    alike _ _ _ _ month_read year_read⟩

end Period

end TrafficMeter
