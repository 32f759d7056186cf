import FillFeed.Json.Value

/-!
# JSON number literals

A `Literal` is a number as it is written. `Literal.number?` is the number it denotes: a whole
number where it is written as one and fits into 64 bits, and otherwise a double-precision number
found in two steps. First the digits are collected into a whole number of 64 bits, dropping the
digits that no longer fit; then that number is multiplied or divided by a power of ten, at most
10^308 at a time. The two roundings make the result differ from the nearest number now and then.
-/

namespace FillFeed.Json

/-- A number as written: its sign and the digits of its three parts. -/
structure Literal where
  negative : Bool
  whole : List Nat
  fraction : List Nat
  exponent : Option (Bool × List Nat)
  deriving DecidableEq

namespace Literal

/-- Collected digits stay below this. -/
def significandBound : Nat := twoPow 64

/-- Collects digits while they fit; what does not fit is left over. -/
def collect (n : Nat) : List Nat → Nat × List Nat
  | [] => (n, [])
  | d :: ds => if n * 10 + d < significandBound then collect (n * 10 + d) ds else (n, d :: ds)

/-- The power of ten as a double-precision number. -/
def power (n : Nat) : Binary64 := Binary64.ofNat (tenPow n)

/-- The number times a power of ten; too large a result is none. Each round divides by 10^308, so
that the number is zero after three of them. -/
def scaled (x : Binary64) (exponent : Int) : (rounds : Nat) → Option Binary64
  | 0 => some x
  | rounds + 1 =>
    if exponent.natAbs ≤ 308 then
      if 0 ≤ exponent then
        let y := x.mul (power exponent.toNat)
        if y.isInfinite then none else some y
      else some (x.div (power (-exponent).toNat))
    else if x.isZero then some x
    else if 0 ≤ exponent then none
    else scaled (x.div (power 308)) (exponent + 308) rounds

/-- A double-precision number with the sign of the literal. -/
def signed (l : Literal) (x : Binary64) : Binary64 := if l.negative then x.neg else x

/-- The double-precision number that a literal denotes; none when it is out of range. -/
def float? (l : Literal) : Option Binary64 :=
  let (n, dropped) := collect 0 l.whole
  let (n, unread) := collect n l.fraction
  let shift : Int := dropped.length - (l.fraction.length - unread.length : Nat)
  match l.exponent with
  | none => (scaled (Binary64.ofNat n) shift 5).map l.signed
  | some (below, ds) =>
    let e := Text.natOfDigits ds
    if twoPow 31 ≤ e then
      if n = 0 ∨ below then some (l.signed Binary64.zero) else none
    else
      let shift := if below then shift - e else shift + e
      (scaled (Binary64.ofNat n) shift 5).map l.signed

/-- The number that a literal denotes; none when it is out of range. -/
def number? (l : Literal) : Option Number :=
  if l.fraction = [] ∧ l.exponent = none then
    let n := Text.natOfDigits l.whole
    if l.negative then
      if n ≠ 0 ∧ n ≤ twoPow 63 then some (.int (-n)) else l.float?.map .float
    else if n < twoPow 64 then some (.int n)
    else l.float?.map .float
  else l.float?.map .float

end Literal

end FillFeed.Json
