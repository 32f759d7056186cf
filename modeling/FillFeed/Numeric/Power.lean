/-!
# Powers

The powers of two and of ten, which the formats of numbers are made of.
-/

namespace FillFeed

/-- Two to the power `n`. -/
def twoPow (n : Nat) : Nat := Nat.pow 2 n

/-- Ten to the power `n`. -/
def tenPow (n : Nat) : Nat := Nat.pow 10 n

end FillFeed
