import FillFeed.Fill.Basic
import FillFeed.Fill.Timestamp
import FillFeed.Json.Record
import FillFeed.Json.Writer
import FillFeed.Numeric.DecimalReader

/-!
# Events in JSON

An `Event` is a fill together with the moment it was received, which is what is passed on and
stored. `Event.toJson` writes one as an object of nine members, and `Event.ofTree?` reads it back;
the constants of the other domain types have their JSON forms here too.
-/

namespace FillFeed

/-- The constant among `all` whose JSON form is that of the tree. -/
def constantOf? {α : Type} (all : List α) (form : α → String) (t : Json.Tree) : Option α :=
  t.constant?.bind fun name => all.find? fun a => form a == name

/-- The side that a tree holds. -/
def Side.ofTree? : Json.Tree → Option Side := constantOf? Side.all Side.label

/-- The market that a tree holds. -/
def Market.ofTree? : Json.Tree → Option Market := constantOf? Market.all Market.label

/-- The environment that a tree holds. -/
def Environment.ofTree? : Json.Tree → Option Environment :=
  constantOf? Environment.all Environment.name

/-- The kind of stream that a tree holds. -/
def StreamKind.ofTree? : Json.Tree → Option StreamKind := constantOf? StreamKind.all StreamKind.name

/-- A fill and the moment it was received. -/
structure Event where
  fill : Fill
  receivedAt : Timestamp
  deriving DecidableEq

namespace Event

/-- The decimal in a tree: a text, where the empty one stands for no decimal. -/
def decimalOfTree? (t : Json.Tree) : Option (Option Decimal) := do
  let s ← t.string?
  if s = "" then some none else some (← Decimal.read? s)

/-- An optional decimal in a tree; null stands for none. -/
def optionalDecimal? (t : Json.Tree) : Option (Option Decimal) :=
  (t.nullable decimalOfTree?).map Option.join

/-- The fields of an event in JSON, in their order. -/
def fields : List String :=
  ["stream_id", "market", "symbol", "side", "order_id", "filled_price", "filled_quantity",
   "fill_time", "received_at"]

/-- The event that a tree holds. -/
def ofTree? (t : Json.Tree) : Option Event := do
  let r ← t.record? fields
  let streamId ← r.required "stream_id" Json.Tree.string?
  let market ← r.required "market" Market.ofTree?
  let symbol ← r.required "symbol" Json.Tree.string?
  let side ← r.required "side" Side.ofTree?
  let orderId ← r.optional "order_id" Json.Tree.string?
  let price ← r.required "filled_price" optionalDecimal?
  let quantity ← r.required "filled_quantity" optionalDecimal?
  let time ← r.optional "fill_time" fun t => t.string?.bind TimeOfDay.read?
  let receivedAt ← r.required "received_at" fun t => t.string?.bind Timestamp.read?
  some ⟨⟨streamId, market, symbol, side, orderId, price, quantity, time⟩, receivedAt⟩

/-- The event that a text holds. -/
def read? (s : String) : Option Event := (Json.Tree.read? s).bind ofTree?

/-- An event as a JSON value. -/
def toJson (e : Event) : Json :=
  .object
    [("stream_id", .string e.fill.streamId),
     ("market", .string e.fill.market.label),
     ("symbol", .string e.fill.symbol),
     ("side", .string e.fill.side.label),
     ("order_id", Json.ofText? e.fill.orderId),
     ("filled_price", Json.ofText? (e.fill.price.map Decimal.toText)),
     ("filled_quantity", Json.ofText? (e.fill.quantity.map Decimal.toText)),
     ("fill_time", Json.ofText? (e.fill.time.map TimeOfDay.toText)),
     ("received_at", .string e.receivedAt.toText)]

/-- The text of an event. -/
def write (e : Event) : String := e.toJson.write

end Event

end FillFeed
