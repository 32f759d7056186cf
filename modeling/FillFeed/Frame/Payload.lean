import FillFeed.Fill.Basic
import FillFeed.Numeric.DecimalReader
import FillFeed.Text.Fields

/-!
# Payloads

The payload of an envelope lists the parts of a fill between `^`: the symbol, the code of the side,
the order, the price, the quantity and the time. A part that is blank or cannot be read is absent;
without a symbol of its own a payload takes the one of its envelope.
-/

namespace FillFeed.Payload

/-- The character between the parts of a payload. -/
def separator : Char := '^'

/-- A text, unless it is empty. -/
def nonempty? (s : String) : Option String := if s = "" then none else some s

/-- The decimal that a part denotes; commas between its digits are skipped. -/
def decimal? (s : String) : Option Decimal :=
  Decimal.read? (String.ofList (s.toList.filter (· != ',')))

/-- The time that a part denotes. -/
def time? (s : String) : Option TimeOfDay := TimeOfDay.ofClock? s.toList

/-- The parts of a payload without the blanks around them. -/
def parts (payload : String) : List String := (Text.split separator payload).map Text.trim

/-- The fill in a payload of a stream; `symbol` is what the envelope names, if it names one. -/
def fill? (streamId : String) (market : Market) (symbol : Option String) (payload : String) :
    Option Fill :=
  let parts := parts payload
  let part (i : Nat) : Option String := (parts[i]?).bind nonempty?
  let own := part 0
  let given := symbol.bind fun s => nonempty? (Text.trim s)
  match own.or given with
  | none => none
  | some symbol =>
    some {
      streamId, market, symbol
      side := (part 1).elim .unknown Side.ofCode
      orderId := part 2
      price := (part 3).bind decimal?
      quantity := (part 4).bind decimal?
      time := (part 5).bind time? }

end FillFeed.Payload
