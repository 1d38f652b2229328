import TrafficMeter.Text.Utf8

set_option autoImplicit false

namespace TrafficMeter.Text

/-- A byte that fits its bounds brings six more bits. -/
theorem continueCode_cons (least greatest byte code : Nat) (bounds : List (Nat × Nat))
    (rest : List Nat) (fits : least ≤ byte ∧ byte ≤ greatest) :
    continueCode ((least, greatest) :: bounds) code (byte :: rest) =
      ((continueCode bounds (code * 0x40 + byte % 0x40) rest).1,
        (continueCode bounds (code * 0x40 + byte % 0x40) rest).2 + 1) := by
  rw [continueCode, if_pos fits]

/-- A lead byte whose continuation is there in full stands for one character. -/
theorem decodeUtf8_of_lead (lead code : Nat) (bytes rest : List Nat) (bounds : List (Nat × Nat))
    (large : 0x80 ≤ lead) (leads : continuations lead = some bounds)
    (complete : continueCode bounds (leadBits lead) (bytes ++ rest) = (some code, bytes.length)) :
    decodeUtf8 (lead :: bytes ++ rest) = Char.ofNat code :: decodeUtf8 rest := by
  rw [List.cons_append, decodeUtf8, if_neg (by omega), leads]
  simp only [complete, Option.map_some, Option.getD_some, List.drop_left]

section Lengths

variable (code : Nat) (rest : List Nat)

theorem decodeUtf8_two (least : 0x80 ≤ code) (below : code < 0x800) :
    decodeUtf8 ([0xc0 + code / 0x40, 0x80 + code % 0x40] ++ rest) =
      Char.ofNat code :: decodeUtf8 rest := by
  have leads : continuations (0xc0 + code / 0x40) = some [(0x80, 0xbf)] := by
    rw [continuations, if_pos (by omega)]
  have bits : leadBits (0xc0 + code / 0x40) = code / 0x40 := by
    rw [leadBits, if_pos (by omega)]
    omega
  apply decodeUtf8_of_lead _ code [_] rest _ (by omega) leads
  rw [bits, List.singleton_append, continueCode_cons _ _ _ _ _ _ (by omega)]
  simp only [continueCode, List.length_singleton, Prod.mk.injEq, Option.some.injEq,
    and_true]
  omega

/-- The second of three bytes is bounded more closely behind two of the lead bytes: the other values
would be overlong, or halves of surrogate pairs. -/
theorem continuations_three (least : 0x800 ≤ code) (below : code < 0x10000)
    (whole : ¬ (0xd800 ≤ code ∧ code ≤ 0xdfff)) :
    ∃ lower upper, continuations (0xe0 + code / 0x1000) =
        some [(lower, upper), (0x80, 0xbf)] ∧
      lower ≤ 0x80 + code / 0x40 % 0x40 ∧ 0x80 + code / 0x40 % 0x40 ≤ upper := by
  by_cases first : code < 0x1000
  · refine ⟨0xa0, 0xbf, ?_, by omega, by omega⟩
    rw [continuations, if_neg (by omega), if_pos (by omega)]
  · by_cases surrogates : 0xd000 ≤ code ∧ code < 0xe000
    · refine ⟨0x80, 0x9f, ?_, by omega, by omega⟩
      rw [continuations, if_neg (by omega), if_neg (by omega), if_pos (by omega)]
    · refine ⟨0x80, 0xbf, ?_, by omega, by omega⟩
      rw [continuations, if_neg (by omega), if_neg (by omega), if_neg (by omega),
        if_pos (by omega)]

theorem decodeUtf8_three (least : 0x800 ≤ code) (below : code < 0x10000)
    (whole : ¬ (0xd800 ≤ code ∧ code ≤ 0xdfff)) :
    decodeUtf8 ([0xe0 + code / 0x1000, 0x80 + code / 0x40 % 0x40, 0x80 + code % 0x40] ++ rest) =
      Char.ofNat code :: decodeUtf8 rest := by
  obtain ⟨lower, upper, leads, fits⟩ := continuations_three code least below whole
  have bits : leadBits (0xe0 + code / 0x1000) = code / 0x1000 := by
    rw [leadBits, if_neg (by omega), if_pos (by omega)]
    omega
  apply decodeUtf8_of_lead _ code [_, _] rest _ (by omega) leads
  rw [bits, List.cons_append, List.singleton_append, continueCode_cons _ _ _ _ _ _ fits,
    continueCode_cons _ _ _ _ _ _ (by omega)]
  simp only [continueCode, List.length_cons, List.length_nil, Prod.mk.injEq, Option.some.injEq,
    and_true]
  omega

theorem continuations_four (least : 0x10000 ≤ code) (below : code < 0x110000) :
    ∃ lower upper, continuations (0xf0 + code / 0x40000) =
        some [(lower, upper), (0x80, 0xbf), (0x80, 0xbf)] ∧
      lower ≤ 0x80 + code / 0x1000 % 0x40 ∧ 0x80 + code / 0x1000 % 0x40 ≤ upper := by
  by_cases first : code < 0x40000
  · refine ⟨0x90, 0xbf, ?_, by omega, by omega⟩
    rw [continuations, if_neg (by omega), if_neg (by omega), if_neg (by omega),
      if_neg (by omega), if_pos (by omega)]
  · by_cases middle : code < 0x100000
    · refine ⟨0x80, 0xbf, ?_, by omega, by omega⟩
      rw [continuations, if_neg (by omega), if_neg (by omega), if_neg (by omega),
        if_neg (by omega), if_neg (by omega), if_pos (by omega)]
    · refine ⟨0x80, 0x8f, ?_, by omega, by omega⟩
      rw [continuations, if_neg (by omega), if_neg (by omega), if_neg (by omega),
        if_neg (by omega), if_neg (by omega), if_neg (by omega), if_pos (by omega)]

theorem decodeUtf8_four (least : 0x10000 ≤ code) (below : code < 0x110000) :
    decodeUtf8 ([0xf0 + code / 0x40000, 0x80 + code / 0x1000 % 0x40, 0x80 + code / 0x40 % 0x40,
      0x80 + code % 0x40] ++ rest) = Char.ofNat code :: decodeUtf8 rest := by
  obtain ⟨lower, upper, leads, fits⟩ := continuations_four code least below
  have bits : leadBits (0xf0 + code / 0x40000) = code / 0x40000 := by
    rw [leadBits, if_neg (by omega), if_neg (by omega)]
    omega
  apply decodeUtf8_of_lead _ code [_, _, _] rest _ (by omega) leads
  rw [bits, List.cons_append, List.cons_append, List.singleton_append,
    continueCode_cons _ _ _ _ _ _ fits, continueCode_cons _ _ _ _ _ _ (by omega),
    continueCode_cons _ _ _ _ _ _ (by omega)]
  simp only [continueCode, List.length_cons, List.length_nil, Prod.mk.injEq, Option.some.injEq,
    and_true]
  omega

end Lengths

/-- The bytes of a character are read as that character, whatever follows. -/
theorem decodeUtf8_encodeCode (char : Char) (rest : List Nat) :
    decodeUtf8 (encodeCode char.toNat ++ rest) = char :: decodeUtf8 rest := by
  have valid : char.toNat < 0xd800 ∨ 0xdfff < char.toNat ∧ char.toNat < 0x110000 := char.valid
  have char_eq : Char.ofNat char.toNat = char := Char.ofNat_toNat char
  unfold encodeCode
  split
  · rename_i below
    rw [List.singleton_append, decodeUtf8, if_pos below, char_eq]
  split
  · rw [decodeUtf8_two _ _ (by omega) (by omega), char_eq]
  split
  · rw [decodeUtf8_three _ _ (by omega) (by omega) (by omega), char_eq]
  · rw [decodeUtf8_four _ _ (by omega) (by omega), char_eq]

theorem decodeUtf8_encodeUtf8 (chars : List Char) : decodeUtf8 (encodeUtf8 chars) = chars := by
  induction chars with
  | nil => rw [encodeUtf8, List.flatMap_nil, decodeUtf8]
  | cons char rest ih =>
    rw [encodeUtf8, List.flatMap_cons, decodeUtf8_encodeCode]
    exact congrArg (char :: ·) ih

theorem lt_of_mem_encodeCode (char : Char) (byte : Nat) (member : byte ∈ encodeCode char.toNat) :
    byte < 0x100 := by
  have valid : char.toNat < 0xd800 ∨ 0xdfff < char.toNat ∧ char.toNat < 0x110000 := char.valid
  unfold encodeCode at member
  split at member
  · rw [List.mem_singleton] at member
    omega
  split at member
  · simp only [List.mem_cons, List.not_mem_nil, or_false] at member
    omega
  split at member
  · simp only [List.mem_cons, List.not_mem_nil, or_false] at member
    omega
  · simp only [List.mem_cons, List.not_mem_nil, or_false] at member
    omega

end TrafficMeter.Text
