import TrafficMeter.Json.Printer
import TrafficMeter.Json.Token
import TrafficMeter.Proofs.Number.Digits

set_option autoImplicit false

namespace TrafficMeter

namespace JsonToken

/-- What follows begins with nothing that would go on with a number. -/
def EndsNumber (rest : List Char) : Prop :=
  ∀ char ∈ rest.head?, ¬ char.isDigit ∧ char ≠ '.' ∧ char ≠ 'e' ∧ char ≠ 'E'

theorem endsNumber_nil : EndsNumber [] := by
  intro char member
  cases member

theorem endsNumber_cons (char : Char) (rest : List Char)
    (ends : ¬ char.isDigit ∧ char ≠ '.' ∧ char ≠ 'e' ∧ char ≠ 'E') : EndsNumber (char :: rest) := by
  intro first member
  cases member
  exact ends

/-- A digit starts no token but a number. -/
theorem next?_of_digit (first : Char) (others : List Char) (digit : first.isDigit) :
    next? (first :: others) = number? false (first :: others) := by
  unfold next?
  split <;> try rfl
  all_goals
    rename_i equal
    obtain ⟨rfl, _⟩ := List.cons.inj equal
    exact absurd digit (by decide)

section Numbers

variable (rest : List Char) (ends : EndsNumber rest)

include ends

theorem takeWhile_digits (number : Nat) :
    (Decimal.digits number ++ rest).takeWhile Char.isDigit = Decimal.digits number := by
  rw [List.takeWhile_append_of_pos (Decimal.isDigit_of_mem_digits number)]
  cases rest with
  | nil => rw [List.takeWhile_nil, List.append_nil]
  | cons char rest =>
    rw [List.takeWhile_cons_of_neg (ends char rfl).1, List.append_nil]

theorem dropWhile_digits (number : Nat) :
    (Decimal.digits number ++ rest).dropWhile Char.isDigit = rest := by
  rw [List.dropWhile_append_of_pos (Decimal.isDigit_of_mem_digits number)]
  cases rest with
  | nil => rfl
  | cons char rest => rw [List.dropWhile_cons_of_neg (ends char rfl).1]

/-- A number is never written with a zero in front, so all its digits are taken. -/
theorem whole?_digits (number : Nat) :
    whole? (Decimal.digits number ++ rest) = some (Decimal.digits number, rest) := by
  have taken := takeWhile_digits rest ends number
  have dropped := dropWhile_digits rest ends number
  by_cases zero : number = 0
  · subst zero
    rfl
  · obtain ⟨first, others, digits_eq, _, nonzero⟩ :=
      Decimal.exists_digits_eq_cons number (by omega)
    rw [digits_eq] at taken dropped ⊢
    rw [List.cons_append] at taken dropped ⊢
    unfold whole?
    split
    · rename_i equal
      exact absurd (List.cons.inj equal).1 nonzero
    · rw [taken, dropped]

theorem fraction?_of_ends : fraction? rest = some (none, rest) := by
  unfold fraction?
  split
  · exact absurd rfl (ends '.' rfl).2.1
  · rfl

theorem exponent?_of_ends : exponent? rest = some (none, rest) := by
  cases rest with
  | nil => rfl
  | cons letter others =>
    obtain ⟨_, _, small, capital⟩ := ends letter rfl
    simp only [exponent?, small, capital, or_self, ↓reduceIte]

theorem number?_digits (negative : Bool) (number : Nat) (signed : negative → 0 < number) :
    number? negative (Decimal.digits number ++ rest) =
      some (.int (if negative then -(number : Int) else number), rest) := by
  have proper : ¬ (negative = true ∧ number = 0) := by
    rintro ⟨minus, zero⟩
    have positive := signed minus
    omega
  simp only [number?, whole?_digits rest ends, fraction?_of_ends rest ends,
    exponent?_of_ends rest ends, Option.bind_eq_bind, Option.bind_some, Option.getD_none,
    List.append_nil, Decimal.value_digits, proper, not_false_eq_true, and_self, ↓reduceIte,
    Option.pure_def]

theorem next?_signed (value : Int) :
    next? (Decimal.signed 0 value ++ rest) = some (.int value, rest) := by
  by_cases negative : value < 0
  · have value_eq : -(value.natAbs : Int) = value := by omega
    rw [Decimal.signed_zero_of_neg value negative, List.cons_append]
    show number? true (Decimal.digits value.natAbs ++ rest) = _
    rw [number?_digits rest ends true value.natAbs (fun _ => by omega), if_pos rfl, value_eq]
  · obtain ⟨number, rfl⟩ := Int.eq_ofNat_of_zero_le (show 0 ≤ value by omega)
    have read := number?_digits rest ends false number (fun minus => nomatch minus)
    obtain ⟨first, others, digits_eq, digit⟩ := Decimal.exists_digits number
    rw [Decimal.signed_zero_of_nonneg]
    rw [digits_eq, List.cons_append] at read ⊢
    rw [next?_of_digit first _ digit, read]
    rfl

end Numbers

/-- A number begins with a minus sign or a digit, and so with no blank. -/
theorem exists_signed_eq_cons (value : Int) :
    ∃ first text, Decimal.signed 0 value = first :: text ∧ ¬ isSpace first := by
  by_cases negative : value < 0
  · exact ⟨'-', _, Decimal.signed_zero_of_neg value negative, by decide⟩
  · obtain ⟨number, rfl⟩ := Int.eq_ofNat_of_zero_le (show 0 ≤ value by omega)
    obtain ⟨first, text, digits_eq, digit⟩ := Decimal.exists_digits number
    refine ⟨first, text, ?_, ?_⟩
    · rw [Decimal.signed_zero_of_nonneg, digits_eq]
    · intro space
      simp only [isSpace, Bool.or_eq_true, decide_eq_true_eq] at space
      rcases space with ((rfl | rfl) | rfl) | rfl <;> exact absurd digit (by decide)

theorem hexValue?_hexDigit (value : Nat) : hexValue? (Json.hexDigit value) = some (value % 16) := by
  have table : ∀ digit : Fin 16, hexValue? (Nat.digitChar digit) = some digit.val := by decide
  exact table ⟨value % 16, Nat.mod_lt _ (by decide)⟩

theorem ofCode_control (char : Char) (control : char.toNat < 0x20) :
    TextUnit.ofCode (((0 * 16 + 0) * 16 + char.toNat / 16 % 16) * 16 + char.toNat % 16) =
      .char char := by
  have code : ((0 * 16 + 0) * 16 + char.toNat / 16 % 16) * 16 + char.toNat % 16 = char.toNat := by
    omega
  have high : ¬ (0xd800 ≤ char.toNat ∧ char.toNat ≤ 0xdbff) := by omega
  have low : ¬ (0xdc00 ≤ char.toNat ∧ char.toNat ≤ 0xdfff) := by omega
  rw [code]
  simp only [TextUnit.ofCode, high, low, ↓reduceIte, Char.ofNat_toNat]

/-- A one-letter escape stands for its character. -/
theorem units?_escape (letter char : Char) (rest : List Char) (unicode : letter ≠ 'u')
    (escape : escaped? letter = some char) :
    units? ('\\' :: letter :: rest) =
      (units? rest).map fun (units, rest) => (.char char :: units, rest) := by
  rw [units?, escape]
  · cases units? rest <;> rfl
  · intro _ _ _ _ _ same
    exact absurd same unicode

/-- A character that is written in a literal is read back as itself. -/
theorem units?_charText (char : Char) (rest : List Char) :
    units? (Json.charText char ++ rest) =
      (units? rest).map fun (units, rest) => (.char char :: units, rest) := by
  unfold Json.charText
  split
  · rename_i is
    subst is
    exact units?_escape '"' '"' rest (by decide) rfl
  split
  · rename_i is
    subst is
    exact units?_escape '\\' '\\' rest (by decide) rfl
  split
  · rename_i is
    subst is
    exact units?_escape 'b' '\x08' rest (by decide) rfl
  split
  · rename_i is
    subst is
    exact units?_escape 'f' '\x0c' rest (by decide) rfl
  split
  · rename_i is
    subst is
    exact units?_escape 'n' '\n' rest (by decide) rfl
  split
  · rename_i is
    subst is
    exact units?_escape 'r' '\r' rest (by decide) rfl
  split
  · rename_i is
    subst is
    exact units?_escape 't' '\t' rest (by decide) rfl
  split
  · rename_i control
    have zero : hexValue? '0' = some 0 := rfl
    simp only [List.cons_append, List.nil_append, units?, zero, hexValue?_hexDigit,
      Option.bind_eq_bind, Option.bind_some]
    rw [ofCode_control char control]
    cases units? rest <;> rfl
  · rename_i quote backslash _ _ _ _ _ printable
    rw [List.singleton_append, units?, if_neg (not_or.mpr ⟨printable, backslash⟩)]
    · cases units? rest <;> rfl
    · exact quote
    · exact fun _ _ _ _ _ same _ => backslash same
    · exact fun _ _ same _ => backslash same

theorem units?_flatMap_charText (chars rest : List Char) :
    units? (chars.flatMap Json.charText ++ '"' :: rest) = some (chars.map .char, rest) := by
  induction chars with
  | nil => simp [units?]
  | cons char chars ih =>
    rw [List.flatMap_cons, List.append_assoc, units?_charText, ih]
    rfl

theorem join_map_char (chars : List Char) : TextUnit.join (chars.map .char) = some chars := by
  induction chars with
  | nil => rfl
  | cons char chars ih =>
    rw [List.map_cons, TextUnit.join, ih]
    rfl

theorem next?_textLiteral (value : String) (rest : List Char) :
    next? (Json.textLiteral (some value) ++ rest) = some (.text (some value), rest) := by
  have read := units?_flatMap_charText value.toList rest
  rw [Json.textLiteral, List.append_assoc, List.cons_append, List.singleton_append]
  show (units? (value.toList.flatMap Json.charText ++ '"' :: rest)).map _ = _
  rw [read, Option.map_some]
  simp only [join_map_char, Option.map_some, String.ofList_toList]

end JsonToken

end TrafficMeter
