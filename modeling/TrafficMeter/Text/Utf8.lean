set_option autoImplicit false

namespace TrafficMeter.Text

/-- What stands for bytes that are no text. -/
def replacement : Char := '\ufffd'

/-- Bounds of the bytes that may follow a lead byte of more than one byte: only the first of them
is narrower than a plain continuation byte. -/
def continuations (lead : Nat) : Option (List (Nat × Nat)) :=
  let plain := (0x80, 0xbf)
  if 0xc2 ≤ lead ∧ lead ≤ 0xdf then some [plain]
  else if lead = 0xe0 then some [(0xa0, 0xbf), plain]
  else if lead = 0xed then some [(0x80, 0x9f), plain]
  else if 0xe1 ≤ lead ∧ lead ≤ 0xef then some [plain, plain]
  else if lead = 0xf0 then some [(0x90, 0xbf), plain, plain]
  else if 0xf1 ≤ lead ∧ lead ≤ 0xf3 then some [plain, plain, plain]
  else if lead = 0xf4 then some [(0x80, 0x8f), plain, plain]
  else none

/-- The bits of a lead byte that belong to the code point. -/
def leadBits (lead : Nat) : Nat :=
  if lead < 0xe0 then lead % 0x20 else if lead < 0xf0 then lead % 0x10 else lead % 0x08

/-- Continues a code point by the bytes that fit, and tells the code point if all are there, and
how many were taken. -/
def continueCode : List (Nat × Nat) → Nat → List Nat → Option Nat × Nat
  | [], code, _ => (some code, 0)
  | _ :: _, _, [] => (none, 0)
  | (least, greatest) :: bounds, code, byte :: rest =>
    if least ≤ byte ∧ byte ≤ greatest then
      let (code, taken) := continueCode bounds (code * 0x40 + byte % 0x40) rest
      (code, taken + 1)
    else (none, 0)

/-- Reads UTF-8. Each longest run of bytes that begins a character but does not complete it, and
each byte that begins none, is replaced. -/
def decodeUtf8 : List Nat → List Char
  | [] => []
  | lead :: rest =>
    if lead < 0x80 then Char.ofNat lead :: decodeUtf8 rest
    else
      match continuations lead with
      | none => replacement :: decodeUtf8 rest
      | some bounds =>
        let (code, taken) := continueCode bounds (leadBits lead) rest
        ((code.map Char.ofNat).getD replacement) :: decodeUtf8 (rest.drop taken)
termination_by bytes => bytes.length

/-- Bytes of one code point. -/
def encodeCode (code : Nat) : List Nat :=
  if code < 0x80 then [code]
  else if code < 0x800 then [0xc0 + code / 0x40, 0x80 + code % 0x40]
  else if code < 0x10000 then
    [0xe0 + code / 0x1000, 0x80 + code / 0x40 % 0x40, 0x80 + code % 0x40]
  else
    [0xf0 + code / 0x40000, 0x80 + code / 0x1000 % 0x40, 0x80 + code / 0x40 % 0x40,
      0x80 + code % 0x40]

def encodeUtf8 (chars : List Char) : List Nat := chars.flatMap fun char => encodeCode char.toNat

end TrafficMeter.Text
