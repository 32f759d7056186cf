import FillFeed.Numeric.Power
import FillFeed.Numeric.Rounding
import FillFeed.Text.Digits

/-!
# Double-precision numbers

A `Binary64` is a sign, a significand and a power of two, an infinity, or no number at all.
`ofRatio` rounds a fraction to the nearest one, a tie to the even significand, and everything else
goes through it: the arithmetic (`mul`, `div`) and the reader of decimal texts (`read?`).
-/

namespace FillFeed

/-- A double-precision number. A finite one is `significand * 2 ^ exponent`, where the significand
has 53 bits, or fewer at the least exponent. -/
inductive Binary64 where
  | nan
  | infinite (negative : Bool)
  | finite (negative : Bool) (significand : Nat) (exponent : Int)
  deriving DecidableEq

namespace Binary64

/-- The exponent of the numbers closest to zero. -/
def leastExponent : Int := -1074

/-- The exponent of the largest numbers. -/
def greatestExponent : Int := 971

/-- Zero without a sign. -/
def zero : Binary64 := .finite false 0 leastExponent

/-- The fraction `num / den` in units of `2 ^ e`, again as a fraction. -/
def inUnits (num den : Nat) (e : Int) : Nat × Nat :=
  if 0 ≤ e then (num, den * twoPow e.toNat) else (num * twoPow (-e).toNat, den)

/-- The number nearest to a fraction, a tie going to the even significand. -/
def ofRatio (negative : Bool) (num den : Nat) : Binary64 :=
  if num = 0 then .finite negative 0 leastExponent
  else
    let e₀ := max leastExponent ((num.log2 : Int) - den.log2 - 53)
    let (n₀, d₀) := inUnits num den e₀
    let e := if n₀ / d₀ < twoPow 53 then e₀ else e₀ + 1
    let (n, d) := inUnits num den e
    let m := Rounding.halfEven n d
    let (m, e) := if m = twoPow 53 then (twoPow 52, e + 1) else (m, e)
    if greatestExponent < e then .infinite negative else .finite negative m e

/-- The number nearest to a whole number. -/
def ofNat (n : Nat) : Binary64 := ofRatio false n 1

/-- The same number with the other sign. -/
def neg : Binary64 → Binary64
  | .nan => .nan
  | .infinite s => .infinite !s
  | .finite s m e => .finite (!s) m e

/-- Whether the number is zero, of either sign. -/
def isZero : Binary64 → Bool
  | .finite _ m _ => m == 0
  | _ => false

/-- Whether the sign is minus. -/
def isNegative : Binary64 → Bool
  | .nan => false
  | .infinite s => s
  | .finite s _ _ => s

/-- The product, rounded; of zero and an infinity it is no number. -/
def mul : Binary64 → Binary64 → Binary64
  | .finite s m e, .finite s' m' e' =>
    let k := e + e'
    if 0 ≤ k then ofRatio (s != s') (m * m' * twoPow k.toNat) 1
    else ofRatio (s != s') (m * m') (twoPow (-k).toNat)
  | .nan, _ | _, .nan => .nan
  | x, y => if x.isZero || y.isZero then .nan else .infinite (x.isNegative != y.isNegative)

/-- The quotient of two finite numbers, rounded; the divisor is not zero. -/
def div : Binary64 → Binary64 → Binary64
  | .finite s m e, .finite s' m' e' =>
    let k := e - e'
    if 0 ≤ k then ofRatio (s != s') (m * twoPow k.toNat) m'
    else ofRatio (s != s') m (m' * twoPow (-k).toNat)
  | _, _ => .nan

/-- Whether the number is infinite. -/
def isInfinite : Binary64 → Bool
  | .infinite _ => true
  | _ => false

/-- Whether the number is at most zero. -/
def isAtMostZero : Binary64 → Bool
  | .finite s m _ => s || m == 0
  | .infinite s => s
  | .nan => false

/-- Whether the number lies between zero and one, both included. -/
def inUnitInterval : Binary64 → Bool
  | .finite s m e =>
    m == 0 || (!s && (if 0 ≤ e then m * twoPow e.toNat ≤ 1 else m ≤ twoPow (-e).toNat))
  | _ => false

/-- The interchange encoding in 64 bits. -/
def bits : Binary64 → Nat
  | .nan => 0x7FF8000000000000
  | .infinite s => (if s then twoPow 63 else 0) + 0x7FF0000000000000
  | .finite s m e =>
    let body := if m < twoPow 52 then m else (e + 1075).toNat * twoPow 52 + (m - twoPow 52)
    (if s then twoPow 63 else 0) + body

/-- The number nearest to `digits * 10 ^ exponent`, where the digits stand for a whole number.
Powers that leave the range in either direction are settled by the count of digits. -/
def ofDecimal (negative : Bool) (digits : List Nat) (exponent : Int) : Binary64 :=
  let significant := digits.dropWhile (· == 0)
  let n := Text.natOfDigits significant
  let top := exponent + significant.length
  if n = 0 ∨ top < -330 then .finite negative 0 leastExponent
  else if 320 < top then .infinite negative
  else if 0 ≤ exponent then ofRatio negative (n * tenPow exponent.toNat) 1
  else ofRatio negative n (tenPow (-exponent).toNat)

/-- The exponent at the end of a number, after its mark; nothing left means none. -/
def exponent? : List Char → Option Int
  | [] => some 0
  | mark :: cs =>
    if mark == 'e' || mark == 'E' then
      let (negative, body) := match cs with
        | '-' :: ds => (true, ds)
        | '+' :: ds => (false, ds)
        | ds => (false, ds)
      match Text.digits? body with
      | none | some [] => none
      | some ds =>
        let n : Int := Text.natOfDigits ds
        some (if negative then -n else n)
    else none

/-- The number that a text without a sign denotes: digits with at most one point and an optional
exponent, or the name of an infinity or of no number, in any case. -/
def magnitude? (negative : Bool) (cs : List Char) : Option Binary64 :=
  let word := String.ofList (cs.map Char.toLower)
  if word = "inf" ∨ word = "infinity" then some (.infinite negative)
  else if word = "nan" then some .nan
  else
    let (whole, rest) := Text.spanDigits cs
    let (fraction, rest) := match rest with
      | '.' :: more => Text.spanDigits more
      | more => ([], more)
    if whole = [] ∧ fraction = [] then none
    else do
      let e ← exponent? rest
      some (ofDecimal negative (whole ++ fraction) (e - fraction.length))

/-- The number that a text denotes. -/
def read? (s : String) : Option Binary64 :=
  match s.toList with
  | '-' :: cs => magnitude? true cs
  | '+' :: cs => magnitude? false cs
  | cs => magnitude? false cs

end Binary64

end FillFeed
