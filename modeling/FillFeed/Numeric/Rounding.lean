/-!
# Rounding quotients

The quotient of two whole numbers, rounded to a whole number. `halfEven` and `halfUp` agree except
on a remainder of exactly one half.
-/

namespace FillFeed.Rounding

/-- The quotient rounded to the nearest whole number, a half to the even one. -/
def halfEven (num den : Nat) : Nat :=
  let q := num / den
  let r := num % den
  if 2 * r < den then q
  else if den < 2 * r then q + 1
  else if q % 2 = 0 then q else q + 1

/-- The quotient rounded to the nearest whole number, a half away from zero. -/
def halfUp (num den : Nat) : Nat :=
  if 2 * (num % den) < den then num / den else num / den + 1

end FillFeed.Rounding
