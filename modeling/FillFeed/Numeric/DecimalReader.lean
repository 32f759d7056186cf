import FillFeed.Numeric.Decimal
import FillFeed.Text.Digits

/-!
# Reading decimal numbers

`Decimal.plain?` reads a sign, digits and a point. Fraction digits are kept while at most 28 of
them fit into the mantissa; the first digit that does not fit rounds half up and the ones after it
are only checked. Separators between digits mean nothing, except that one right behind 28 fraction
digits ends a number whose mantissa is short. `Decimal.read?` also accepts a decimal exponent of at
most 28 after such a number.
-/

namespace FillFeed.Decimal

open Text

/-- What has been read of a number: the mantissa, the fraction digits in it, and whether a point
and a digit were seen. -/
structure Progress where
  mantissa : Nat
  scale : Nat
  point : Bool
  digit : Bool

/-- Whether only characters of a number are left: digits, separators, and a point if none was
seen. -/
def tailOk : (point : Bool) → List Char → Bool
  | _, [] => true
  | point, c :: cs =>
    if isDigit c || c == '_' then tailOk point cs
    else if c == '.' && !point then tailOk true cs
    else false

/-- The mantissa after a digit that does not fit: it rounds half up, and when rounding makes the
mantissa too long its last digit goes. -/
def roundOff (negative : Bool) (p : Progress) (next : Nat) : Option Decimal :=
  let m := if 5 ≤ next then p.mantissa + 1 else p.mantissa
  if m < mantissaBound then make? negative m p.scale
  else if p.scale = 0 then none
  else make? negative ((m + 4) / 10) (p.scale - 1)

/-- Mantissas below this are short. -/
def shortMantissaBound : Nat := (twoPow 64 / 10 - 255) * 10

/-- Reads the rest of a number, from left to right. -/
def scan (negative : Bool) : Progress → List Char → Option Decimal
  | p, [] => if p.digit then make? negative p.mantissa p.scale else none
  | p, c :: cs =>
    match digit? c with
    | some d =>
      let m := p.mantissa * 10 + d
      if p.point && p.scale == maxScale then
        if tailOk p.point cs then roundOff negative p d else none
      else if m < mantissaBound then
        scan negative { p with
          mantissa := m, scale := if p.point then p.scale + 1 else p.scale, digit := true } cs
      else if p.point then
        if tailOk p.point cs then roundOff negative p d else none
      else none
    | none =>
      if c == '.' && !p.point then scan negative { p with point := true } cs
      else if c == '_' && p.digit then
        if p.point && p.scale == maxScale && p.mantissa < shortMantissaBound then
          if tailOk p.point cs then roundOff negative p 0 else none
        else scan negative p cs
      else none

/-- The decimal that a text denotes: an optional sign, then digits with at most one point. -/
def plain? (cs : List Char) : Option Decimal :=
  match cs with
  | '-' :: cs => scan true ⟨0, 0, false, false⟩ cs
  | '+' :: cs => scan false ⟨0, 0, false, false⟩ cs
  | cs => scan false ⟨0, 0, false, false⟩ cs

/-- A decimal divided by a power of ten: the scale grows, and digits past the 28th are rounded off
half away from zero first, which may leave a zero with a sign. -/
def scaleDown (d : Decimal) (exponent : Nat) : Option Decimal :=
  if maxScale < exponent then none
  else if d.scale + exponent ≤ maxScale then signed? d.negative d.mantissa (d.scale + exponent)
  else
    let dropped := d.scale + exponent - maxScale
    signed? d.negative (Rounding.halfUp d.mantissa (tenPow dropped)) maxScale

/-- A decimal multiplied by a power of ten: the scale shrinks first, then the mantissa grows. -/
def scaleUp (d : Decimal) (exponent : Nat) : Option Decimal :=
  if exponent ≤ d.scale then make? d.negative d.mantissa (d.scale - exponent)
  else if maxScale < exponent then none
  else make? d.negative (d.mantissa * tenPow (exponent - d.scale)) 0

/-- The decimal that a text with an exponent denotes. -/
def scientific? (cs : List Char) : Option Decimal := do
  let isMark : Char → Bool := fun c => c == 'e' || c == 'E'
  let base ← plain? (cs.takeWhile fun c => !isMark c)
  match cs.dropWhile fun c => !isMark c with
  | _ :: '-' :: exponent =>
    base.scaleDown (← unsigned? (twoPow 32) (String.ofList exponent))
  | _ :: exponent =>
    base.scaleUp (← unsigned? (twoPow 32) (String.ofList exponent))
  | [] => none

/-- The decimal that a text denotes, plainly or with an exponent. -/
def read? (s : String) : Option Decimal :=
  match plain? s.toList with
  | some d => some d
  | none => scientific? s.toList

end FillFeed.Decimal
