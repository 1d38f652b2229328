import Mathlib.Data.List.TakeWhile
import TrafficMeter.Proofs.Json.Written
import TrafficMeter.Proofs.Number.Numeral
import TrafficMeter.Proofs.Text.Cut
import TrafficMeter.Proofs.Text.Utf8
import TrafficMeter.Service.Request

set_option autoImplicit false

namespace TrafficMeter

namespace Query

/-- Characters that stand for themselves. -/
def isUnreserved (char : Char) : Bool :=
  char.isAlphanum || char = '-' || char = '.' || char = '_' || char = '~'

def encodeByte (byte : Nat) : List Char := ['%', Json.hexDigit (byte / 16), Json.hexDigit byte]

def encodeChar (char : Char) : List Char :=
  if isUnreserved char then [char] else (Text.encodeCode char.toNat).flatMap encodeByte

def encodePart (part : String) : List Char := part.toList.flatMap encodeChar

def encodePair (parameter : String × String) : List Char :=
  encodePart parameter.1 ++ '=' :: encodePart parameter.2

/-- The parameters as they stand in an address. -/
def encode : Query → List Char
  | [] => []
  | [parameter] => encodePair parameter
  | parameter :: next :: rest => encodePair parameter ++ '&' :: encode (next :: rest)

theorem isUnreserved_hexDigit (value : Nat) : isUnreserved (Json.hexDigit value) := by
  have table : ∀ digit : Fin 16, isUnreserved (Nat.digitChar digit) := by decide
  exact table ⟨value % 16, Nat.mod_lt _ (by decide)⟩

theorem unreserved_of_mem_encodeChar (char written : Char) (member : written ∈ encodeChar char) :
    isUnreserved written ∨ written = '%' := by
  unfold encodeChar at member
  split at member
  · rename_i unreserved
    rw [List.mem_singleton] at member
    exact .inl (member ▸ unreserved)
  · obtain ⟨byte, _, member⟩ := List.mem_flatMap.mp member
    simp only [encodeByte, List.mem_cons, List.not_mem_nil, or_false] at member
    rcases member with rfl | rfl | rfl
    · exact .inr rfl
    · exact .inl (isUnreserved_hexDigit _)
    · exact .inl (isUnreserved_hexDigit _)

section Reserved

variable (mark : Char) (reserved : ¬ isUnreserved mark) (escape : mark ≠ '%')

include reserved escape

theorem not_mem_encodePart (part : String) : mark ∉ encodePart part := by
  intro member
  obtain ⟨char, _, member⟩ := List.mem_flatMap.mp member
  rcases unreserved_of_mem_encodeChar char mark member with unreserved | same
  · exact reserved unreserved
  · exact escape same

theorem not_mem_encodePair (parameter : String × String) (inside : mark ≠ '=') :
    mark ∉ encodePair parameter := by
  intro member
  rcases List.mem_append.mp member with name | value
  · exact not_mem_encodePart mark reserved escape _ name
  · rcases List.mem_cons.mp value with same | value
    · exact inside same
    · exact not_mem_encodePart mark reserved escape _ value

theorem not_mem_encode (query : Query) (inside : mark ≠ '=') (between : mark ≠ '&') :
    mark ∉ encode query := by
  induction query using encode.induct with
  | case1 => exact List.not_mem_nil
  | case2 parameter => exact not_mem_encodePair mark reserved escape parameter inside
  | case3 parameter next rest ih =>
    intro member
    rcases List.mem_append.mp member with first | others
    · exact not_mem_encodePair mark reserved escape parameter inside first
    · rcases List.mem_cons.mp others with same | others
      · exact between same
      · exact ih others

end Reserved

section Parts

theorem partBytes_encodeByte (byte : Nat) (small : byte < 0x100) (rest : List Char) :
    partBytes (encodeByte byte ++ rest) = byte :: partBytes rest := by
  have value : byte / 16 % 16 * 16 + byte % 16 = byte := by omega
  simp only [encodeByte, List.cons_append, List.nil_append, partBytes,
    JsonToken.hexValue?_hexDigit, value]

theorem partBytes_encodeBytes (bytes : List Nat) (small : ∀ byte ∈ bytes, byte < 0x100)
    (rest : List Char) :
    partBytes (bytes.flatMap encodeByte ++ rest) = bytes ++ partBytes rest := by
  induction bytes with
  | nil => rfl
  | cons byte bytes ih =>
    obtain ⟨first, others⟩ := List.forall_mem_cons.mp small
    rw [List.flatMap_cons, List.append_assoc, partBytes_encodeByte byte first, ih others,
      List.cons_append]

theorem partBytes_encodeChar (char : Char) (rest : List Char) :
    partBytes (encodeChar char ++ rest) = Text.encodeCode char.toNat ++ partBytes rest := by
  unfold encodeChar
  split
  · rename_i unreserved
    rw [List.singleton_append, partBytes]
    -- What stands for itself is neither a plus nor a percent sign, which are read otherwise.
    · rintro rfl
      exact absurd unreserved (by decide)
    · rintro _ _ _ rfl
      exact absurd unreserved (by decide)
  · exact partBytes_encodeBytes _ (Text.lt_of_mem_encodeCode char) rest

theorem partBytes_encodePart (part : String) :
    partBytes (encodePart part) = Text.encodeUtf8 part.toList := by
  rw [encodePart, Text.encodeUtf8]
  induction part.toList with
  | nil => rfl
  | cons char chars ih => rw [List.flatMap_cons, partBytes_encodeChar, ih, List.flatMap_cons]

theorem decodePart_encodePart (part : String) : decodePart (encodePart part) = part := by
  rw [decodePart, partBytes_encodePart, Text.decodeUtf8_encodeUtf8, String.ofList_toList]

end Parts

section Pieces

variable (separator : Char) (piece : List Char) (whole : separator ∉ piece)

include whole

theorem splitAt_of_not_mem : splitAt separator piece = [piece] := by
  induction piece with
  | nil => rfl
  | cons char piece ih =>
    rw [List.mem_cons, not_or] at whole
    obtain ⟨differs, others⟩ := whole
    rw [splitAt, if_neg (Ne.symm differs), ih others]

theorem splitAt_append (rest : List Char) :
    splitAt separator (piece ++ separator :: rest) = piece :: splitAt separator rest := by
  induction piece with
  | nil => rw [List.nil_append, splitAt, if_pos rfl]
  | cons char piece ih =>
    rw [List.mem_cons, not_or] at whole
    obtain ⟨differs, others⟩ := whole
    rw [List.cons_append, splitAt, if_neg (Ne.symm differs), ih others]

end Pieces

theorem decodePair_encodePair (parameter : String × String) :
    decodePair (encodePair parameter) = parameter := by
  have whole : '=' ∉ encodePart parameter.1 :=
    not_mem_encodePart '=' (by decide) (by decide) parameter.1
  rw [decodePair, encodePair, Text.takeWhile_piece _ _ whole, Text.dropWhile_piece _ _ whole,
    List.drop_one, List.tail_cons, decodePart_encodePart, decodePart_encodePart]

theorem encodePair_ne_nil (parameter : String × String) : encodePair parameter ≠ [] := by
  intro empty
  cases (List.append_eq_nil_iff.mp empty).2

/-- Parameters are read from an address as they were written into it. -/
theorem decode_encode (query : Query) : decode (encode query) = query := by
  have unsplit : ∀ parameter, '&' ∉ encodePair parameter := fun parameter =>
    not_mem_encodePair '&' (by decide) (by decide) parameter (by decide)
  induction query using encode.induct with
  | case1 => rfl
  | case2 parameter =>
    rw [encode, decode, splitAt_of_not_mem _ _ (unsplit parameter), List.filter_cons,
      if_pos (decide_eq_true (encodePair_ne_nil parameter)), List.filter_nil, List.map_singleton,
      decodePair_encodePair]
  | case3 parameter next rest ih =>
    rw [encode, decode, splitAt_append _ _ (unsplit parameter), List.filter_cons,
      if_pos (decide_eq_true (encodePair_ne_nil parameter)), List.map_cons, decodePair_encodePair]
    exact congrArg (parameter :: ·) ih

/-- The address of a page with its parameters. -/
def address (path : String) (query : Query) : String :=
  String.ofList (path.toList ++ '?' :: encode query)

/-- Path and parameters of an address are found where they were put, whatever the parameters are. -/
theorem splitAddress_of_unmarked (path : String) (onward text : List Char)
    (begins : path.toList = '/' :: onward) (unmarked : '?' ∉ path.toList ∧ '#' ∉ path.toList)
    (sent : '#' ∉ text) :
    splitAddress (String.ofList (path.toList ++ '?' :: text)) = (path, text) := by
  have whole : (path.toList ++ '?' :: text).takeWhile (· ≠ '#') = path.toList ++ '?' :: text := by
    apply List.takeWhile_eq_self_iff.mpr
    apply Text.ne_separator_of_mem
    intro member
    rcases List.mem_append.mp member with before | behind
    · exact unmarked.2 before
    · rcases List.mem_cons.mp behind with same | inside
      · exact absurd same (by decide)
      · exact sent inside
  have onward_eq : pathOnward (path.toList ++ '?' :: text) = path.toList ++ '?' :: text := by
    rw [begins, List.cons_append, pathOnward]
  rw [splitAddress, String.toList_ofList, whole, onward_eq, Text.takeWhile_piece _ _ unmarked.1,
    Text.dropWhile_piece _ _ unmarked.1, List.drop_one, List.tail_cons, String.ofList_toList]

theorem splitAddress_address (path : String) (onward : List Char) (query : Query)
    (begins : path.toList = '/' :: onward) (unmarked : '?' ∉ path.toList ∧ '#' ∉ path.toList) :
    splitAddress (address path query) = (path, encode query) :=
  splitAddress_of_unmarked path onward (encode query) begins unmarked
    (not_mem_encode '#' (by decide) (by decide) query (by decide) (by decide))

section Parameters

theorem serverIndex?_text (index : UInt64) :
    serverIndex? (Decimal.text index.toNat) = some index.toNat := by
  have number : Decimal.number? (Decimal.digits index.toNat).length
      (Decimal.digits index.toNat) = some index.toNat :=
    Decimal.number?_eq_some_iff.mpr ⟨Nat.le_refl _, 0, rfl⟩
  obtain ⟨first, rest, digits_eq, digit⟩ := Decimal.exists_digits index.toNat
  have unsigned : first ≠ '+' := by
    rintro rfl
    exact absurd digit (by decide)
  rw [digits_eq] at number
  rw [serverIndex?, Decimal.text, String.toList_ofList, digits_eq]
  simp only [List.cons.injEq, unsigned, false_and, imp_self, implies_true, number,
    index.toNat_lt_size, ↓reduceIte]

variable (query : Query) (name : String)

theorem parameter?_of_absent {α : Type} (read : String → Option α)
    (absent : query.values name = []) : query.parameter? name read = some none := by
  rw [parameter?, absent]

theorem parameter?_of_given {α : Type} (read : String → Option α) (text : String) (value : α)
    (given : query.values name = [text]) (reads : read text = some value) :
    query.parameter? name read = some (some value) := by
  rw [parameter?, given]
  simp only [reads, Option.map_some]

theorem scope?_of_absent (absent : query.values "server" = []) : query.scope? = some .all := by
  rw [scope?, query.parameter?_of_absent "server" serverIndex? absent]
  rfl

theorem scope?_of_given (index : UInt64)
    (given : query.values "server" = [Decimal.text index.toNat]) :
    query.scope? = some (.ofIndex index.toNat) := by
  rw [scope?, query.parameter?_of_given "server" serverIndex? _ _ given (serverIndex?_text index)]
  rfl

theorem chartRequest?_of_parts (range : Option RangeKind) (scope : Scope) (period : Option String)
    (rangeRead : query.parameter? "range" RangeKind.ofText? = some range)
    (scopeRead : query.scope? = some scope)
    (periodRead : query.parameter? "period" some = some period) :
    query.chartRequest? = some ⟨range, scope, period⟩ := by
  rw [chartRequest?, rangeRead, scopeRead, periodRead]
  rfl

end Parameters

end Query

end TrafficMeter
