import FillFeed.Numeric.Power
import FillFeed.Text.Quoted

/-!
# Durations

A duration is a whole number of nanoseconds. Its text (`Duration.toText`) is in the largest of the
units `s`, `ms`, `µs` and `ns` that it reaches, with as many fraction digits as it needs.
-/

namespace FillFeed

/-- A length of time. -/
structure Duration where
  nanos : Nat
  deriving DecidableEq, Inhabited

namespace Duration

/-- A number of seconds. -/
def ofSecs (n : Nat) : Duration := ⟨n * 1000000000⟩

/-- A number of milliseconds. -/
def ofMillis (n : Nat) : Duration := ⟨n * 1000000⟩

/-- The whole milliseconds in a duration. -/
def millis (d : Duration) : Nat := d.nanos / 1000000

/-- The whole seconds in a duration. -/
def secs (d : Duration) : Nat := d.nanos / 1000000000

/-- No time at all. -/
def zero : Duration := ⟨0⟩

/-- A count of nanoseconds in units of `10 ^ places` of them, with the fraction digits needed. -/
def inUnit (places nanos : Nat) : String :=
  let whole := nanos / tenPow places
  let ds := Nat.toDigits 10 (nanos % tenPow places)
  let fraction := List.replicate (places - ds.length) '0' ++ ds
  let kept := (fraction.reverse.dropWhile (· == '0')).reverse
  if places = 0 ∨ kept = [] then Text.decimalNat whole
  else Text.decimalNat whole ++ "." ++ String.ofList kept

/-- The text of a duration. -/
def toText (d : Duration) : String :=
  if 1000000000 ≤ d.nanos then inUnit 9 d.nanos ++ "s"
  else if 1000000 ≤ d.nanos then inUnit 6 d.nanos ++ "ms"
  else if 1000 ≤ d.nanos then inUnit 3 d.nanos ++ "µs"
  else inUnit 0 d.nanos ++ "ns"

end Duration

end FillFeed
