import Mathlib.Data.List.DropRight
import TrafficMeter.Text.Blank

set_option autoImplicit false

namespace TrafficMeter.Text

/-- What is left of a text when the blanks at its ends are taken away and no others. -/
structure Trims (chars kept : List Char) : Prop where
  cut : ∃ front back, chars = front ++ kept ++ back ∧ (∀ char ∈ front, isBlank char) ∧
    ∀ char ∈ back, isBlank char
  first : ∀ char, kept.head? = some char → ¬ isBlank char
  last : ∀ char, kept.getLast? = some char → ¬ isBlank char

theorem not_isBlank_of_head?_dropWhile (chars : List Char) (char : Char)
    (begins : (chars.dropWhile isBlank).head? = some char) : ¬ isBlank char := by
  have stopped := List.head?_dropWhile_not isBlank chars
  rw [begins] at stopped
  rw [stopped]
  exact Bool.false_ne_true

theorem trims_trim (chars : List Char) : Trims chars (trim chars) := by
  let onward := chars.dropWhile isBlank
  have front_eq : chars.takeWhile isBlank ++ onward = chars := List.takeWhile_append_dropWhile
  have back_eq : trim chars ++ onward.rtakeWhile isBlank = onward :=
    List.rdropWhile_append_rtakeWhile
  refine ⟨⟨chars.takeWhile isBlank, onward.rtakeWhile isBlank, ?_, ?_, ?_⟩, ?_, ?_⟩
  · rw [List.append_assoc, back_eq, front_eq]
  · exact fun char => List.mem_takeWhile_imp
  · exact fun char => List.mem_rtakeWhile_imp
  · -- a cut at the end leaves the beginning as it was
    intro char begins
    apply not_isBlank_of_head?_dropWhile chars
    show onward.head? = some char
    rw [← back_eq, List.head?_append, begins, Option.some_or]
  · intro char ends
    apply not_isBlank_of_head?_dropWhile onward.reverse
    rw [← List.getLast?_reverse]
    exact ends

theorem trim_of_trims (chars kept : List Char) (trims : Trims chars kept) : trim chars = kept := by
  obtain ⟨⟨front, back, rfl, frontBlank, backBlank⟩, first, last⟩ := trims
  rw [trim, List.append_assoc, List.dropWhile_append_of_pos frontBlank]
  cases kept with
  | nil =>
    rw [List.nil_append, List.dropWhile_eq_nil_iff.mpr backBlank]
    rfl
  | cons char rest =>
    have starts : ¬ isBlank char := first char rfl
    rw [List.cons_append, List.dropWhile_cons_of_neg starts, ← List.cons_append,
      List.reverse_append, List.dropWhile_append_of_pos (by simpa using backBlank)]
    cases reversed : (char :: rest).reverse with
    | nil => exact absurd reversed (by simp)
    | cons final before =>
      have stops : ¬ isBlank final := by
        apply last
        rw [← List.head?_reverse, reversed, List.head?_cons]
      rw [List.dropWhile_cons_of_neg stops, ← reversed, List.reverse_reverse]

theorem trim_eq_iff (chars kept : List Char) : trim chars = kept ↔ Trims chars kept := by
  constructor
  · rintro rfl
    exact trims_trim chars
  · exact trim_of_trims chars kept

/-- A text without blanks is left as it is. -/
theorem trim_of_no_blanks (chars : List Char) (solid : ∀ char ∈ chars, ¬ isBlank char) :
    trim chars = chars := by
  apply trim_of_trims
  refine ⟨⟨[], [], by simp, by simp, by simp⟩, ?_, ?_⟩
  · intro char begins
    exact solid char (List.mem_of_mem_head? begins)
  · intro char ends
    exact solid char (List.mem_of_getLast? ends)

section Separator

variable (separator : Char) (piece : List Char) (whole : separator ∉ piece)

include whole

theorem ne_separator_of_mem : ∀ char ∈ piece, decide (char ≠ separator) = true := by
  intro char listed
  rw [decide_eq_true_eq]
  rintro rfl
  exact whole listed

/-- What stands before a separator, if none comes earlier, can be taken off again. -/
theorem takeWhile_piece (rest : List Char) :
    (piece ++ separator :: rest).takeWhile (· ≠ separator) = piece := by
  rw [List.takeWhile_append_of_pos (ne_separator_of_mem separator piece whole),
    List.takeWhile_cons_of_neg (by simp), List.append_nil]

theorem dropWhile_piece (rest : List Char) :
    (piece ++ separator :: rest).dropWhile (· ≠ separator) = separator :: rest := by
  rw [List.dropWhile_append_of_pos (ne_separator_of_mem separator piece whole),
    List.dropWhile_cons_of_neg (by simp)]

end Separator

end TrafficMeter.Text
