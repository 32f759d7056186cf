import FillFeed.Numeric.Power
import FillFeed.Numeric.Rounding

/-!
# Decimal numbers

A `Decimal` is a whole number below 2^96 divided by a power of ten with an exponent of at most 28,
with a sign; the scale is part of the number, so that `1.50` stays `1.50`. A zero that comes out of
rounding may keep the sign of what was rounded. `Decimal.mul?` is the product, rounded half to even
only as far as it has to be.
-/

namespace FillFeed

/-- The mantissas of decimal numbers lie below this. -/
def Decimal.mantissaBound : Nat := twoPow 96

/-- The largest number of fraction digits. -/
def Decimal.maxScale : Nat := 28

/-- A number with up to 28 fraction digits and a mantissa of 96 bits. -/
structure Decimal where
  negative : Bool
  mantissa : Nat
  scale : Nat
  mantissa_lt : mantissa < Decimal.mantissaBound
  scale_le : scale ≤ Decimal.maxScale
  deriving DecidableEq

namespace Decimal

/-- The decimal with this sign, mantissa and scale, when they are in range. -/
def signed? (negative : Bool) (mantissa scale : Nat) : Option Decimal :=
  if h : mantissa < mantissaBound ∧ scale ≤ maxScale then
    some ⟨negative, mantissa, scale, h.1, h.2⟩
  else none

/-- The decimal with this mantissa and scale, when both are in range; zero loses its sign. -/
def make? (negative : Bool) (mantissa scale : Nat) : Option Decimal :=
  signed? (negative && mantissa != 0) mantissa scale

/-- The number zero, without fraction digits. -/
def zero : Decimal := ⟨false, 0, 0, by decide, by decide⟩

/-- The number, without its sign if it is zero. -/
def dropZeroSign (d : Decimal) : Decimal :=
  { d with negative := d.negative && d.mantissa != 0 }

/-- A mantissa that may be too long, shortened by the fewest of `scale` fraction digits that bring
it into range; `extra` says how many digits may still be dropped. -/
def shorten (negative : Bool) (mantissa scale : Nat) : (extra : Nat) → Option Decimal
  | 0 => signed? negative (Rounding.halfEven mantissa (tenPow scale)) 0
  | extra + 1 =>
    let kept := Rounding.halfEven mantissa (tenPow (scale - (extra + 1)))
    match signed? negative kept (extra + 1) with
    | some d => some d
    | none => shorten negative mantissa scale extra

/-- Factors with mantissas below this are short. -/
def shortBound : Nat := twoPow 32

/-- The most fraction digits that are rounded off a product of short factors. -/
def maxDropped : Nat := 19

/-- The product, with as many fraction digits as the factors have together where that fits, and
otherwise rounded half to even by the fewest digits; nothing when no rounding makes it fit. A
product of short factors that rounds to zero has no sign, and is a plain zero when too many digits
had to go. -/
def mul? (a b : Decimal) : Option Decimal :=
  let scale := a.scale + b.scale
  let product := shorten (a.negative != b.negative) (a.mantissa * b.mantissa) scale scale
  if a.mantissa = 0 ∨ b.mantissa = 0 then some zero
  else if a.mantissa < shortBound ∧ b.mantissa < shortBound then
    if maxScale + maxDropped < scale then some zero else product.map dropZeroSign
  else product

/-- The digits of a number, filled up with zeros on the left to at least `width` digits. -/
def padDigits (width n : Nat) : List Char :=
  let ds := Nat.toDigits 10 n
  List.replicate (width - ds.length) '0' ++ ds

/-- The text of a decimal: all its fraction digits, at least one digit before the point. -/
def toChars (d : Decimal) : List Char :=
  let body :=
    if d.scale = 0 then Nat.toDigits 10 d.mantissa
    else
      Nat.toDigits 10 (d.mantissa / tenPow d.scale) ++
        '.' :: padDigits d.scale (d.mantissa % tenPow d.scale)
  if d.negative then '-' :: body else body

/-- The text of a decimal. -/
def toText (d : Decimal) : String := String.ofList d.toChars

end Decimal

end FillFeed
