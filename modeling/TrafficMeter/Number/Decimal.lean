set_option autoImplicit false

namespace TrafficMeter.Decimal

def digits (value : Nat) : List Char := Nat.toDigits 10 value

/-- Zeros in front fill the width; a longer number keeps all its digits. -/
def padded (width value : Nat) : List Char :=
  List.replicate (width - (digits value).length) '0' ++ digits value

/-- A minus sign takes one place of the width. -/
def signed (width : Nat) (value : Int) : List Char :=
  if value < 0 then '-' :: padded (width - 1) value.natAbs else padded width value.natAbs

/-- Meant for ASCII digits. -/
def value (chars : List Char) : Nat :=
  chars.foldl (fun total char => 10 * total + (char.toNat - '0'.toNat)) 0

/-- The value of one to `limit` ASCII digits and nothing else. -/
def number? (limit : Nat) (chars : List Char) : Option Nat :=
  if chars ≠ [] ∧ chars.length ≤ limit ∧ chars.all Char.isDigit then some (value chars) else none

def text (value : Nat) : String := String.ofList (digits value)

def signedText (value : Int) : String := String.ofList (signed 0 value)

end TrafficMeter.Decimal
