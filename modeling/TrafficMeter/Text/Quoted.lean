import TrafficMeter.Text.GraphemeExtend
import TrafficMeter.Text.Unprintable

set_option autoImplicit false

namespace TrafficMeter.Text

/-- Lower-case hexadecimal digits without padding. -/
def hexDigits (value : Nat) : List Char := Nat.toDigits 16 value

/-- One character inside quotes. A character that could not be seen, or that would change how the
one before it looks, is written as its code point. -/
def quotedChar (char : Char) : List Char :=
  if char = '\x00' then ['\\', '0']
  else if char = '\t' then ['\\', 't']
  else if char = '\r' then ['\\', 'r']
  else if char = '\n' then ['\\', 'n']
  else if char = '\\' then ['\\', '\\']
  else if char = '"' then ['\\', '"']
  else if isGraphemeExtend char || isUnprintable char then
    ['\\', 'u', '\x7b'] ++ hexDigits char.toNat ++ ['\x7d']
  else [char]

/-- Text between double quotes, on one line and in visible characters. -/
def quoted (chars : List Char) : List Char :=
  '"' :: chars.flatMap quotedChar ++ ['"']

end TrafficMeter.Text
