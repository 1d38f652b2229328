import Mathlib.Data.List.Forall2
import TrafficMeter.Json.Parser
import TrafficMeter.Proofs.Json.Written

set_option autoImplicit false

namespace TrafficMeter

namespace JsonToken

/-- The text is read as the tokens in as many steps as it has characters, or in more. -/
def Reads (chars : List Char) (tokens : List JsonToken) : Prop :=
  ∀ steps, chars.length ≤ steps → allWithin steps chars = some tokens

/-- The tokens of a text stand in front of those of whatever follows it. -/
def Writes (text : List Char) (tokens : List JsonToken) : Prop :=
  ∀ rest following, EndsNumber rest → Reads rest following →
    Reads (text ++ rest) (tokens ++ following)

theorem reads_nil : Reads [] [] := by
  intro steps _
  cases steps <;> rfl

theorem reads_of_space (char : Char) (rest : List Char) (tokens : List JsonToken)
    (space : isSpace char) (reads : Reads rest tokens) : Reads (char :: rest) tokens := by
  intro steps enough
  cases steps with
  | zero => cases enough
  | succ steps =>
    rw [allWithin]
    simp only [space, ↓reduceIte]
    exact reads steps (Nat.le_of_succ_le_succ enough)

/-- A token that stands at the start is read first. -/
theorem reads_of_next (first : Char) (text rest : List Char) (token : JsonToken)
    (tokens : List JsonToken) (solid : ¬ isSpace first)
    (read : next? (first :: text ++ rest) = some (token, rest)) (reads : Reads rest tokens) :
    Reads (first :: text ++ rest) (token :: tokens) := by
  intro steps enough
  cases steps with
  | zero => cases enough
  | succ steps =>
    simp only [List.cons_append, List.length_cons, List.length_append] at enough
    rw [List.cons_append] at read ⊢
    rw [allWithin]
    simp only [solid, Bool.false_eq_true, ↓reduceIte, read, Option.bind_eq_bind, Option.bind_some,
      reads steps (by omega), Option.pure_def]

theorem reads_blank (blank rest : List Char) (tokens : List JsonToken)
    (blanks : ∀ char ∈ blank, isSpace char) (reads : Reads rest tokens) :
    Reads (blank ++ rest) tokens := by
  induction blank with
  | nil => exact reads
  | cons char blank ih =>
    obtain ⟨space, others⟩ := List.forall_mem_cons.mp blanks
    exact reads_of_space char _ tokens space (ih others)

/-- A mark is a token of one character. -/
theorem reads_mark (mark : Char) (rest : List Char) (token : JsonToken) (tokens : List JsonToken)
    (solid : ¬ isSpace mark) (read : next? (mark :: rest) = some (token, rest))
    (reads : Reads rest tokens) : Reads (mark :: rest) (token :: tokens) :=
  reads_of_next mark [] rest token tokens solid read reads

end JsonToken

namespace Json

open JsonToken

theorem isSpace_of_mem_lineBreak (layout : Layout) (depth : Nat) (char : Char)
    (member : char ∈ layout.lineBreak depth) : isSpace char := by
  cases layout with
  | compact => cases member
  | indented =>
    rcases List.mem_cons.mp member with rfl | member
    · rfl
    · rw [List.eq_of_mem_replicate member]
      rfl

theorem endsNumber_lineBreak (layout : Layout) (depth : Nat) (rest : List Char)
    (ends : EndsNumber rest) : EndsNumber (layout.lineBreak depth ++ rest) := by
  cases layout with
  | compact => exact ends
  | indented => exact endsNumber_cons _ _ (by decide)

/-- Lists of tokens between marks, with commas between the lists. -/
def enclosed (opening closing : JsonToken) : List (List JsonToken) → List JsonToken
  | [] => [opening, closing]
  | first :: rest => opening :: first ++ rest.flatMap (.comma :: ·) ++ [closing]

mutual

/-- The tokens a document is written with. -/
def tokens : Json → List JsonToken
  | .null => [.null]
  | .bool value => [.bool value]
  | .int value => [.int value]
  | .real value => [.real value]
  | .text value => [.text value]
  | .array items => enclosed .openBracket .closeBracket (itemTokens items)
  | .object fields => enclosed .openBrace .closeBrace (fieldTokens fields)

def itemTokens : List Json → List (List JsonToken)
  | [] => []
  | item :: rest => item.tokens :: itemTokens rest

def fieldTokens : List (JsonText × Json) → List (List JsonToken)
  | [] => []
  | (key, value) :: rest => (.text key :: .colon :: value.tokens) :: fieldTokens rest

end

mutual

/-- A document without halves of surrogate pairs, and with no numbers but integers. -/
def IsPlain : Json → Prop
  | .null | .bool _ | .int _ => True
  | .real _ => False
  | .text value => value.isSome
  | .array items => ItemsPlain items
  | .object fields => FieldsPlain fields

def ItemsPlain : List Json → Prop
  | [] => True
  | item :: rest => item.IsPlain ∧ ItemsPlain rest

def FieldsPlain : List (JsonText × Json) → Prop
  | [] => True
  | (key, value) :: rest => key.isSome ∧ value.IsPlain ∧ FieldsPlain rest

end

section Enclose

variable (layout : Layout) (depth : Nat)

/-- Each further item stands behind a comma and a line break. -/
theorem reads_furtherItems (texts : List (List Char)) (tokenLists : List (List JsonToken))
    (rest : List Char) (following : List JsonToken) (written : List.Forall₂ Writes texts tokenLists)
    (ends : EndsNumber rest) (reads : Reads rest following) :
    EndsNumber (texts.flatMap (fun item => ',' :: layout.lineBreak depth ++ item) ++ rest) ∧
      Reads (texts.flatMap (fun item => ',' :: layout.lineBreak depth ++ item) ++ rest)
        (tokenLists.flatMap (.comma :: ·) ++ following) := by
  induction written with
  | nil => exact ⟨ends, reads⟩
  | cons item _ ih =>
    obtain ⟨endsAfter, readsAfter⟩ := ih
    rw [List.flatMap_cons, List.flatMap_cons, List.cons_append, List.cons_append, List.cons_append,
      List.append_assoc, List.append_assoc, List.append_assoc]
    refine ⟨endsNumber_cons _ _ (by decide), reads_mark _ _ _ _ (by decide) rfl ?_⟩
    exact reads_blank _ _ _ (isSpace_of_mem_lineBreak layout depth)
      (item _ _ endsAfter readsAfter)

theorem writes_enclose (opening closing : Char) (openToken closeToken : JsonToken)
    (texts : List (List Char)) (tokenLists : List (List JsonToken))
    (written : List.Forall₂ Writes texts tokenLists)
    (openSolid : ¬ isSpace opening) (closeSolid : ¬ isSpace closing)
    (opens : ∀ rest, next? (opening :: rest) = some (openToken, rest))
    (closes : ∀ rest, next? (closing :: rest) = some (closeToken, rest))
    (closeEnds : ∀ rest, EndsNumber (closing :: rest)) :
    Writes (enclose layout depth opening closing texts)
      (enclosed openToken closeToken tokenLists) := by
  intro rest following _ reads
  have closed : Reads (closing :: rest) (closeToken :: following) :=
    reads_mark _ _ _ _ closeSolid (closes rest) reads
  cases written with
  | nil => exact reads_mark _ _ _ _ openSolid (opens _) closed
  | cons first others =>
    have broken : Reads (layout.lineBreak depth ++ closing :: rest) (closeToken :: following) :=
      reads_blank _ _ _ (isSpace_of_mem_lineBreak layout depth) closed
    obtain ⟨ends, further⟩ := reads_furtherItems layout (depth + 1) _ _ _ _ others
      (endsNumber_lineBreak layout depth _ (closeEnds rest)) broken
    simp only [enclose, enclosed, List.cons_append, List.append_assoc, List.nil_append]
    refine reads_mark _ _ _ _ openSolid (opens _) ?_
    exact reads_blank _ _ _ (isSpace_of_mem_lineBreak layout (depth + 1))
      (first _ _ ends further)

end Enclose

theorem writes_int (value : Int) : Writes (Decimal.signed 0 value) [.int value] := by
  intro rest following ends reads
  have read := next?_signed rest ends value
  obtain ⟨first, text, signed_eq, solid⟩ := exists_signed_eq_cons value
  rw [signed_eq] at read ⊢
  exact reads_of_next first text rest _ following solid read reads

theorem writes_text (value : String) : Writes (textLiteral (some value)) [.text (some value)] := by
  intro rest following _ reads
  exact reads_of_next '"' _ rest _ following (by decide) (next?_textLiteral value rest) reads

/-- A key stands before a colon and its value. -/
theorem writes_field (layout : Layout) (key : String) (text : List Char) (tokens : List JsonToken)
    (written : Writes text tokens) :
    Writes (textLiteral (some key) ++ layout.colon ++ text)
      (.text (some key) :: .colon :: tokens) := by
  intro rest following ends reads
  have valued := written rest following ends reads
  have parted : Reads (layout.colon ++ (text ++ rest)) (.colon :: (tokens ++ following)) := by
    cases layout with
    | compact => exact reads_mark ':' _ _ _ (by decide) rfl valued
    | indented =>
      exact reads_mark ':' _ _ _ (by decide) rfl (reads_of_space ' ' _ _ (by decide) valued)
  have colonEnds : EndsNumber (layout.colon ++ (text ++ rest)) := by
    cases layout <;> exact endsNumber_cons ':' _ (by decide)
  rw [List.append_assoc, List.append_assoc]
  exact writes_text key _ _ colonEnds parted

mutual

theorem writes_render (layout : Layout) : ∀ (depth : Nat) (json : Json), json.IsPlain →
    Writes (render layout depth json) json.tokens
  | _, .null, _ => fun rest following _ reads =>
    reads_of_next 'n' ['u', 'l', 'l'] rest .null following (by decide) rfl reads
  | _, .bool true, _ => fun rest following _ reads =>
    reads_of_next 't' ['r', 'u', 'e'] rest (.bool true) following (by decide) rfl reads
  | _, .bool false, _ => fun rest following _ reads =>
    reads_of_next 'f' ['a', 'l', 's', 'e'] rest (.bool false) following (by decide) rfl reads
  | _, .int value, _ => writes_int value
  | _, .text (some value), _ => writes_text value
  | depth, .array items, plain =>
    writes_enclose layout depth '[' ']' .openBracket .closeBracket _ _
      (writes_renderItems layout (depth + 1) items plain) (by decide) (by decide)
      (fun _ => rfl) (fun _ => rfl) (fun _ => endsNumber_cons _ _ (by decide))
  | depth, .object fields, plain =>
    writes_enclose layout depth '{' '}' .openBrace .closeBrace _ _
      (writes_renderFields layout (depth + 1) fields plain) (by decide) (by decide)
      (fun _ => rfl) (fun _ => rfl) (fun _ => endsNumber_cons _ _ (by decide))

theorem writes_renderItems (layout : Layout) : ∀ (depth : Nat) (items : List Json),
    ItemsPlain items → List.Forall₂ Writes (renderItems layout depth items) (itemTokens items)
  | _, [], _ => .nil
  | depth, item :: rest, plain =>
    .cons (writes_render layout depth item plain.1) (writes_renderItems layout depth rest plain.2)

theorem writes_renderFields (layout : Layout) :
    ∀ (depth : Nat) (fields : List (JsonText × Json)), FieldsPlain fields →
      List.Forall₂ Writes (renderFields layout depth fields) (fieldTokens fields)
  | _, [], _ => .nil
  | depth, (some key, value) :: rest, plain =>
    .cons (writes_field layout key _ _ (writes_render layout depth value plain.2.1))
      (writes_renderFields layout depth rest plain.2.2)

end

/-- A value begins with no mark that would end what encloses it. -/
theorem exists_tokens_eq_cons (json : Json) :
    ∃ first rest, json.tokens = first :: rest ∧ first ≠ .closeBracket := by
  cases json with
  | array items =>
    cases items <;> exact ⟨.openBracket, _, rfl, by decide⟩
  | object fields =>
    rcases fields with _ | ⟨⟨key, value⟩, rest⟩ <;> exact ⟨.openBrace, _, rfl, by decide⟩
  | null | bool _ | int _ | real _ | text _ => exact ⟨_, [], rfl, by simp⟩

theorem valueWithin_openBracket (steps : Nat) (first : JsonToken) (rest : List JsonToken)
    (goesOn : first ≠ .closeBracket) :
    valueWithin (steps + 1) (.openBracket :: first :: rest) =
      (itemsWithin steps (first :: rest)).map fun (items, rest) => (.array items, rest) := by
  cases first with
  | closeBracket => exact absurd rfl goesOn
  | _ => rfl

theorem valueWithin_openBrace (steps : Nat) (key : JsonText) (rest : List JsonToken) :
    valueWithin (steps + 1) (.openBrace :: .text key :: rest) =
      (fieldsWithin steps (.text key :: rest)).map fun (fields, rest) => (.object fields, rest) :=
  rfl

mutual

/-- Two steps for each token are enough to take a value in. -/
theorem valueWithin_tokens : ∀ (json : Json) (steps : Nat) (rest : List JsonToken),
    2 * json.tokens.length ≤ steps → valueWithin steps (json.tokens ++ rest) = some (json, rest)
  | .null, _ + 1, _, _ => rfl
  | .bool _, _ + 1, _, _ => rfl
  | .int _, _ + 1, _, _ => rfl
  | .real _, _ + 1, _, _ => rfl
  | .text _, _ + 1, _, _ => rfl
  | .array [], _ + 1, _, _ => rfl
  | .array (first :: others), steps + 1, rest, enough => by
    simp only [tokens, itemTokens, enclosed, List.cons_append, List.length_cons, List.length_append,
      List.length_nil] at enough
    have items := itemsWithin_tokens first others steps rest (by
      rw [List.length_append]
      omega)
    -- A closing bracket in front would be read as an empty array.
    obtain ⟨head, tail, tokens_eq, goesOn⟩ := first.exists_tokens_eq_cons
    simp only [tokens, itemTokens, enclosed, List.cons_append, List.append_assoc, List.nil_append]
    simp only [tokens_eq, List.cons_append, List.append_assoc] at items ⊢
    rw [valueWithin_openBracket steps head _ goesOn, items, Option.map_some]
  | .object [], _ + 1, _, _ => rfl
  | .object ((key, value) :: others), steps + 1, rest, enough => by
    simp only [tokens, fieldTokens, enclosed, List.cons_append, List.length_cons,
      List.length_append, List.length_nil] at enough
    have fields := fieldsWithin_tokens key value others steps rest (by
      simp only [List.length_append, List.length_cons]
      omega)
    simp only [tokens, fieldTokens, enclosed, List.cons_append, List.append_assoc, List.nil_append]
      at fields ⊢
    rw [valueWithin_openBrace, fields, Option.map_some]

theorem itemsWithin_tokens : ∀ (first : Json) (others : List Json) (steps : Nat)
    (rest : List JsonToken),
    2 * (first.tokens ++ (itemTokens others).flatMap (.comma :: ·)).length + 1 ≤ steps →
      itemsWithin steps (first.tokens ++ (itemTokens others).flatMap (.comma :: ·) ++
        .closeBracket :: rest) = some (first :: others, rest)
  | first, [], steps + 1, rest, enough => by
    rw [List.length_append] at enough
    have value := valueWithin_tokens first steps (.closeBracket :: rest) (by omega)
    rw [itemTokens, List.flatMap_nil, List.append_nil, itemsWithin, value]
  | first, second :: others, steps + 1, rest, enough => by
    simp only [itemTokens, List.flatMap_cons, List.length_append, List.length_cons,
      List.cons_append] at enough
    have value := valueWithin_tokens first steps (.comma :: (second.tokens ++
      (itemTokens others).flatMap (.comma :: ·) ++ .closeBracket :: rest)) (by omega)
    have items := itemsWithin_tokens second others steps rest (by
      rw [List.length_append]
      omega)
    rw [itemTokens, List.flatMap_cons, List.append_assoc, List.cons_append, List.cons_append,
      itemsWithin, value]
    simp only [items, Option.map_some]

theorem fieldsWithin_tokens : ∀ (key : JsonText) (value : Json) (others : List (JsonText × Json))
    (steps : Nat) (rest : List JsonToken),
    2 * (.text key :: .colon :: value.tokens ++
        (fieldTokens others).flatMap (.comma :: ·)).length + 1 ≤ steps →
      fieldsWithin steps (.text key :: .colon :: value.tokens ++
        (fieldTokens others).flatMap (.comma :: ·) ++ .closeBrace :: rest) =
          some ((key, value) :: others, rest)
  | key, value, [], steps + 1, rest, enough => by
    simp only [List.length_append, List.length_cons] at enough
    have taken := valueWithin_tokens value steps (.closeBrace :: rest) (by omega)
    rw [fieldTokens, List.flatMap_nil, List.append_nil, List.cons_append, List.cons_append,
      fieldsWithin, taken]
  | key, value, (key', value') :: others, steps + 1, rest, enough => by
    simp only [fieldTokens, List.flatMap_cons, List.length_append, List.length_cons,
      List.cons_append] at enough
    have taken := valueWithin_tokens value steps
      (.comma :: (.text key' :: .colon :: value'.tokens ++
        (fieldTokens others).flatMap (.comma :: ·) ++ .closeBrace :: rest)) (by omega)
    have fields := fieldsWithin_tokens key' value' others steps rest (by
      simp only [List.length_append, List.length_cons]
      omega)
    rw [fieldTokens, List.flatMap_cons]
    simp only [List.cons_append, List.append_assoc] at taken fields ⊢
    rw [fieldsWithin, taken]
    simp only [fields, Option.map_some]

end

/-- What has been written is read back. -/
theorem parse?_render (layout : Layout) (json : Json) (plain : json.IsPlain) :
    parse? (String.ofList (render layout 0 json)) = some json := by
  have reads := writes_render layout 0 json plain [] [] endsNumber_nil reads_nil
  have value := json.valueWithin_tokens (2 * json.tokens.length + 2) [] (by omega)
  rw [List.append_nil, List.append_nil] at reads
  rw [List.append_nil] at value
  rw [parse?, String.toList_ofList, parseChars?, all?, reads _ (Nat.le_refl _), Option.bind_some,
    ofTokens?, value]

end Json

end TrafficMeter
