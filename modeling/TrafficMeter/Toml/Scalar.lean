import TrafficMeter.Toml.Number
import TrafficMeter.Toml.Time

set_option autoImplicit false

namespace TrafficMeter.Toml

/-- A value that is written without quotes and brackets. -/
def scalar? (chars : List Char) : Option Toml :=
  let unsigned := (splitSign chars).2
  if chars = ['t', 'r', 'u', 'e'] then some (bool true)
  else if chars = ['f', 'a', 'l', 's', 'e'] then some (bool false)
  else if unsigned = ['i', 'n', 'f'] ∨ unsigned = ['n', 'a', 'n'] then some real
  else if isTime chars then some time
  else number? chars

end TrafficMeter.Toml
