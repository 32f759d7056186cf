import FillFeed.Stream
import FillFeed.Numeric.Decimal
import FillFeed.Fill.TimeOfDay

/-!
# Fills

A `Fill` is an execution of an order as the feed reports it: what was traded, on which side, and
for how much. Everything but the stream, the market, the symbol and the side may be missing.
`Fill.notional` is price times quantity.
-/

namespace FillFeed

/-- The side of an order. -/
inductive Side where
  | buy
  | sell
  | unknown
  deriving DecidableEq, Inhabited

namespace Side

/-- The side that a code of the feed stands for. -/
def ofCode (code : String) : Side :=
  let word := Text.trim code
  if word = "02" then .buy else if word = "01" then .sell else .unknown

/-- The label of a side in records and in JSON. -/
def label : Side → String
  | .buy => "buy"
  | .sell => "sell"
  | .unknown => "unknown"

/-- The name of a side as a constant. -/
def name : Side → String
  | .buy => "Buy"
  | .sell => "Sell"
  | .unknown => "Unknown"

/-- All sides. -/
def all : List Side := [.buy, .sell, .unknown]

end Side

/-- An execution of an order. -/
structure Fill where
  streamId : String
  market : Market
  symbol : String
  side : Side
  orderId : Option String
  price : Option Decimal
  quantity : Option Decimal
  time : Option TimeOfDay
  deriving DecidableEq

/-- Why a value cannot be computed. -/
inductive ArithmeticError where
  | overflow
  deriving DecidableEq

/-- The wording of an error. -/
def ArithmeticError.message : ArithmeticError → String
  | .overflow => "Multiplication overflowed"

/-- Price times quantity, where both are known; it may leave the range of decimals. -/
def Fill.notional (f : Fill) : Except ArithmeticError (Option Decimal) :=
  match f.price, f.quantity with
  | some price, some quantity =>
    match price.mul? quantity with
    | some d => .ok (some d)
    | none => .error .overflow
  | _, _ => .ok none

end FillFeed
