import Mathlib
import FillFeed.Fill.Event
import FillFeed.Proofs.Fill.Clock
import FillFeed.Proofs.Json.Written
import FillFeed.Proofs.Numeric.Written

/-!
# Events read back

An event is written as an object with a member for each of its fields, each of which is read back
from its own text: the identifiers through the escapes of strings, the market and the side through
their labels, the amounts and the time through their digits. `Event.read?_written` puts them
together. What is read is the event itself, but that an amount of zero has lost its sign, which
makes it no other number (`Fill.Equal`).
-/

namespace FillFeed

namespace Fill

/-- A fill whose amounts of zero have no sign. -/
def dropZeroSigns (f : Fill) : Fill :=
  { f with
    price := f.price.map Decimal.dropZeroSign
    quantity := f.quantity.map Decimal.dropZeroSign }

/-- Two fills with the same data, whose amounts are the same numbers with as many fraction
digits. -/
structure Equal (f g : Fill) : Prop where
  streamId : f.streamId = g.streamId
  market : f.market = g.market
  symbol : f.symbol = g.symbol
  side : f.side = g.side
  orderId : f.orderId = g.orderId
  price : Option.Rel Decimal.Alike f.price g.price
  quantity : Option.Rel Decimal.Alike f.quantity g.quantity
  time : f.time = g.time

/-- Taking the signs off zeros leaves a fill with equal data. -/
lemma dropZeroSigns_equal (f : Fill) : f.dropZeroSigns.Equal f := by
  have alike (o : Option Decimal) : Option.Rel Decimal.Alike (o.map Decimal.dropZeroSign) o := by
    cases o with
    | none => exact .none
    | some d => exact .some d.dropZeroSign_alike
  exact ⟨rfl, rfl, rfl, rfl, rfl, alike f.price, alike f.quantity, rfl⟩

end Fill

/-- A market is read back from its label. -/
lemma Market.ofTree?_label (m : Market) : ofTree? (.string (some m.label)) = some m := by
  cases m <;> decide

/-- A side is read back from its label. -/
lemma Side.ofTree?_label (s : Side) : ofTree? (.string (some s.label)) = some s := by
  cases s <;> decide

namespace Event

/-- The members that an event is written as. -/
def members (e : Event) : List (Option String × Json.Tree) :=
  [(some "stream_id", .string (some e.fill.streamId)),
   (some "market", .string (some e.fill.market.label)),
   (some "symbol", .string (some e.fill.symbol)),
   (some "side", .string (some e.fill.side.label)),
   (some "order_id", .ofText? e.fill.orderId),
   (some "filled_price", .ofText? (e.fill.price.map Decimal.toText)),
   (some "filled_quantity", .ofText? (e.fill.quantity.map Decimal.toText)),
   (some "fill_time", .ofText? (e.fill.time.map TimeOfDay.toText)),
   (some "received_at", .string (some e.receivedAt.toText))]

/-- An event is written as an object with its members. -/
lemma toTree?_toJson (e : Event) : e.toJson.toTree? = some (.object e.members) := by
  simp only [toJson, Json.toTree?, Json.memberTrees?, Json.toTree?_ofText?, Option.map_some,
    members]

/-- Each member of an event has the name of its field. -/
lemma names_members (e : Event) : e.members.map (·.1) = fields.map some := rfl

/-- A decimal is read from the text of its digits, which is never empty. -/
lemma decimalOfTree?_toText (d : Decimal) :
    decimalOfTree? (.string (some d.toText)) = some (some d.dropZeroSign) := by
  have filled : d.toText ≠ "" := by
    intro empty
    have read := d.read?_toText
    rw [empty] at read
    cases read
  simp only [decimalOfTree?, Json.Tree.string?, bind, Option.bind_some, if_neg filled,
    Decimal.read?_toText]

/-- An amount is read from its text, and none from `null`. -/
lemma optionalDecimal?_toText (o : Option Decimal) :
    optionalDecimal? (.ofText? (o.map Decimal.toText)) = some (o.map Decimal.dropZeroSign) := by
  cases o with
  | none => rfl
  | some d =>
    simp only [Option.map_some, Json.Tree.ofText?, optionalDecimal?, Json.Tree.nullable,
      decimalOfTree?_toText, Option.join_some]

/-- A time is read from its text, and none from `null`. -/
lemma optionalTime_toText (o : Option TimeOfDay) :
    (Json.Tree.ofText? (o.map TimeOfDay.toText)).nullable
      (fun t => t.string?.bind TimeOfDay.read?) = some o := by
  cases o with
  | none => rfl
  | some t =>
    simp only [Option.map_some, Json.Tree.ofText?, Json.Tree.nullable, Json.Tree.string?,
      Option.bind_some, t.read?_toText]

/-- The members of an event hold the event, but for the signs of zeros. -/
lemma ofTree?_members {e : Event}
    (moment : Timestamp.read? e.receivedAt.toText = some e.receivedAt) :
    ofTree? (.object e.members) = some ⟨e.fill.dropZeroSigns, e.receivedAt⟩ := by
  have distinct : (e.members.map (·.1)).Nodup := by
    rw [names_members]
    decide
  have named : ∀ m ∈ e.members, m.1.isSome := by
    intro m mem
    have name := List.mem_map_of_mem (f := (·.1)) mem
    rw [names_members] at name
    obtain ⟨name, -, same⟩ := List.mem_map.1 name
    rw [← same]
    rfl
  -- no name is repeated, so that each field is found where it was written
  obtain ⟨r, holds, -, gives⟩ := Json.record?_object fields distinct named
  have required {α : Type} {read : Json.Tree → Option α} {name : String} (known : name ∈ fields) :
      r.required name read = (e.members.lookup (some name)).bind read := by
    rw [Json.Record.required, gives, if_pos known]
  have optional {α : Type} {read : Json.Tree → Option α} {name : String} {t : Json.Tree}
      (known : name ∈ fields) (there : e.members.lookup (some name) = some t) :
      r.optional name read = t.nullable read := by
    rw [Json.Record.optional, gives, if_pos known, there]
  have streamId : r.required "stream_id" Json.Tree.string? = some e.fill.streamId :=
    required (by decide)
  have market : r.required "market" Market.ofTree? = some e.fill.market :=
    (required (by decide)).trans e.fill.market.ofTree?_label
  have symbol : r.required "symbol" Json.Tree.string? = some e.fill.symbol :=
    required (by decide)
  have side : r.required "side" Side.ofTree? = some e.fill.side :=
    (required (by decide)).trans e.fill.side.ofTree?_label
  have orderId : r.optional "order_id" Json.Tree.string? = some e.fill.orderId := by
    rw [optional (by decide) rfl]
    cases e.fill.orderId <;> rfl
  have price : r.required "filled_price" optionalDecimal? = some e.fill.dropZeroSigns.price :=
    (required (by decide)).trans (optionalDecimal?_toText e.fill.price)
  have quantity :
      r.required "filled_quantity" optionalDecimal? = some e.fill.dropZeroSigns.quantity :=
    (required (by decide)).trans (optionalDecimal?_toText e.fill.quantity)
  have time :
      r.optional "fill_time" (fun t => t.string?.bind TimeOfDay.read?) = some e.fill.time := by
    rw [optional (by decide) rfl, optionalTime_toText]
  have receivedAt :
      r.required "received_at" (fun t => t.string?.bind Timestamp.read?) = some e.receivedAt :=
    (required (by decide)).trans moment
  simp only [ofTree?, holds, streamId, market, symbol, side, orderId, price, quantity, time,
    receivedAt, bind, Option.bind_some]
  rfl

/-- An event that was written is read back, whatever its texts are: the same data, where an amount
of zero has no sign. -/
theorem read?_written {e : Event}
    (moment : Timestamp.read? e.receivedAt.toText = some e.receivedAt) :
    read? e.write = some ⟨e.fill.dropZeroSigns, e.receivedAt⟩ ∧
      e.fill.dropZeroSigns.Equal e.fill := by
  refine ⟨?_, e.fill.dropZeroSigns_equal⟩
  rw [read?, write, Json.read?_write e.toTree?_toJson, Option.bind_some, ofTree?_members moment]

/-- An event in a leap second, with texts that need escapes and a price that is a negative zero. -/
def sampleEvent : Event where
  fill :=
    { streamId := "H0STCNI9\u0000"
      market := .domestic
      symbol := "\"\\\t"
      side := .sell
      orderId := some ""
      price := some { Decimal.zero with negative := true, scale := 2, scale_le := by decide }
      quantity := some ⟨true, twoPow 96 - 1, 28, by decide, by decide⟩
      time := some ⟨23, 59, 60, 1000, by decide, by decide, by decide, by decide⟩ }
  receivedAt := ⟨⟨2024, 2, 29⟩, ⟨14, 59, 60, 2000000, by decide, by decide, by decide, by decide⟩⟩

/-- The event in the leap second is read back, with a price of zero that has no sign. -/
theorem sampleEvent_read :
    Timestamp.read? sampleEvent.receivedAt.toText = some sampleEvent.receivedAt ∧
      read? sampleEvent.write = some ⟨sampleEvent.fill.dropZeroSigns, sampleEvent.receivedAt⟩ ∧
      sampleEvent.fill.dropZeroSigns.Equal sampleEvent.fill := by
  have moment : Timestamp.read? sampleEvent.receivedAt.toText = some sampleEvent.receivedAt :=
    Timestamp.read?_toText (by decide)
  exact ⟨moment, read?_written moment⟩

end Event

end FillFeed
