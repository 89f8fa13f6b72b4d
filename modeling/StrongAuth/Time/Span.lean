import StrongAuth.Text.Decimal

/-! # Spans of time

A span is a whole number of nanoseconds. Its text names the largest unit of
seconds, milliseconds, microseconds and nanoseconds that it reaches. -/

namespace StrongAuth.Time

structure Span where
  nanos : Nat
  deriving DecidableEq, Repr, Inhabited

namespace Span

def ofMillis (millis : Nat) : Span := ⟨millis * 1000000⟩

def ofSeconds (seconds : Nat) : Span := ⟨seconds * 1000000000⟩

/-- A decimal fraction of `width` digits without its trailing zeros, empty if it is zero. -/
def writeFraction (width remainder : Nat) : List Char :=
  let shown := ((Decimal.fixed width remainder).reverse.dropWhile (· == '0')).reverse
  if shown.isEmpty then [] else '.' :: shown

/-- The number of units of `10 ^ width` nanoseconds, with its fraction. -/
def writeUnits (width nanos : Nat) : List Char :=
  let unit := Nat.pow 10 width
  Decimal.digits (nanos / unit) ++ writeFraction width (nanos % unit)

/-- The span in its largest unit. -/
def text (span : Span) : String :=
  if 1000000000 ≤ span.nanos then String.ofList (writeUnits 9 span.nanos) ++ "s"
  else if 1000000 ≤ span.nanos then String.ofList (writeUnits 6 span.nanos) ++ "ms"
  else if 1000 ≤ span.nanos then String.ofList (writeUnits 3 span.nanos) ++ "µs"
  else String.ofList (writeUnits 0 span.nanos) ++ "ns"

end Span

end StrongAuth.Time
