import FillFeed.Numeric.Binary64

/-!
# Shortest decimal texts of double-precision numbers

`Binary64.shortest` finds the fewest digits that still read back as the number, and
`Binary64.toText` lays them out: with a point from 10^-4 up to 10^16, with an exponent elsewhere,
and always with a digit after the point when there is no exponent.
-/

namespace FillFeed.Binary64

/-- Digits and the power of ten of the last one. -/
structure Digits where
  value : Nat
  exponent : Int

/-- The exponent of the leading decimal digit of `num / den`, counted down from an upper bound. -/
def leadingExponent (num den : Nat) : (fuel : Nat) → Int → Int
  | 0, k => k
  | fuel + 1, k =>
    let reached :=
      if 0 ≤ k then den * tenPow k.toNat ≤ num else den ≤ num * tenPow (-k).toNat
    if reached then k else leadingExponent num den fuel (k - 1)

/-- The number with `n` digits in the interval around `significand * 2 ^ exponent`, if there is
one: of the two neighbours on the grid of that many digits, the nearer one that lies inside. -/
def atPrecision (significand : Nat) (exponent : Int) (n : Nat) : Option Digits :=
  -- All quantities are counted in quarters of the unit in the last place.
  let quarter : Nat × Nat :=
    if 0 ≤ exponent then (twoPow exponent.toNat, 4) else (1, 4 * twoPow (-exponent).toNat)
  let mid := 4 * significand
  let low := if significand = twoPow 52 ∧ leastExponent < exponent then mid - 1 else mid - 2
  let high := mid + 2
  let lead := leadingExponent (significand * 4 * quarter.1) quarter.2 700 330
  let k := lead + 1 - n
  -- In units of 10 ^ k: the number, the ends of the interval.
  let scale : Nat × Nat := if 0 ≤ k then (1, tenPow k.toNat) else (tenPow (-k).toNat, 1)
  let num := quarter.1 * scale.1
  let den := quarter.2 * scale.2
  let floor := mid * num / den
  let inside (c : Nat) : Bool :=
    if significand % 2 = 0 then low * num ≤ c * den && c * den ≤ high * num
    else low * num < c * den && c * den < high * num
  let belowGap := mid * num - floor * den
  let aboveGap := (floor + 1) * den - mid * num
  let nearer := if belowGap ≤ aboveGap then [floor, floor + 1] else [floor + 1, floor]
  (nearer.find? inside).map (⟨·, k⟩)

/-- The fewest digits that read back as the number, searched from `n` digits on. -/
def searchDigits (significand : Nat) (exponent : Int) : (fuel n : Nat) → Digits
  | 0, _ => ⟨0, 0⟩
  | fuel + 1, n =>
    match atPrecision significand exponent n with
    | some d => d
    | none => searchDigits significand exponent fuel (n + 1)

/-- Digits without zeros at the end. -/
def Digits.strip : (fuel : Nat) → Digits → Digits
  | 0, d => d
  | fuel + 1, d =>
    if d.value ≠ 0 ∧ d.value % 10 = 0 then strip fuel ⟨d.value / 10, d.exponent + 1⟩ else d

/-- The fewest digits that read back as a number above zero. -/
def shortest (significand : Nat) (exponent : Int) : Digits :=
  (searchDigits significand exponent 20 1).strip 20

/-- Digits laid out with a point and at least one digit on each side of it. -/
def Digits.positional (d : Digits) : String :=
  let ds := Nat.toDigits 10 d.value
  if 0 ≤ d.exponent then
    String.ofList (ds ++ List.replicate d.exponent.toNat '0') ++ ".0"
  else
    let places := (-d.exponent).toNat
    let padded := List.replicate (places + 1 - ds.length) '0' ++ ds
    String.ofList (padded.take (padded.length - places)) ++ "." ++
      String.ofList (padded.drop (padded.length - places))

/-- Digits laid out with a power of ten. -/
def Digits.exponential (d : Digits) : String :=
  let ds := Nat.toDigits 10 d.value
  let e := d.exponent + (ds.length - 1)
  let power := if e < 0 then "-" ++ String.ofList (Nat.toDigits 10 (-e).toNat)
    else String.ofList (Nat.toDigits 10 e.toNat)
  match ds with
  | [c] => String.singleton c ++ "e" ++ power
  | c :: cs => String.singleton c ++ "." ++ String.ofList cs ++ "e" ++ power
  | [] => ""

/-- The text of a number, by its fewest digits: with a point when the leading digit stands for at
least ten to the power `least` and less than 10^16, and with an exponent otherwise. -/
def layout (least : Int) : Binary64 → String
  | .nan => "NaN"
  | .infinite s => if s then "-inf" else "inf"
  | .finite s m e =>
    let body :=
      if m = 0 then "0.0"
      else
        let d := shortest m e
        let lead := d.exponent + ((Nat.toDigits 10 d.value).length - 1)
        if lead < least ∨ 16 ≤ lead then d.exponential else d.positional
    if s then "-" ++ body else body

/-- The text of a number as it is shown in log records. -/
def toText (x : Binary64) : String := x.layout (-4)

end FillFeed.Binary64
