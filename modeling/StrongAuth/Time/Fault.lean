/-! # Faults of timestamp texts -/

namespace StrongAuth.Time

inductive TimeFault
  | tooShort
  | invalid
  | outOfRange
  | trailing
  deriving DecidableEq, Repr

def TimeFault.message : TimeFault → String
  | .tooShort => "premature end of input"
  | .invalid => "input contains invalid characters"
  | .outOfRange => "input is out of range"
  | .trailing => "trailing input"

end StrongAuth.Time
