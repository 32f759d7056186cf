import Mathlib
import FillFeed.Proofs.Fill.Clock
import FillFeed.Proofs.Frame.Isolation
import FillFeed.Proofs.Frame.Keepalive
import FillFeed.Proofs.Numeric.Numeral

/-!
# Payloads read as they were meant

A plain envelope with a payload of six fields is understood as the fill that these fields tell of,
however many fields stand behind them and whatever blanks stand around each of them
(`payload_understood`). The envelope is cut first and its payload afterwards; each part loses its
blanks on its own, and the amounts lose their commas before they are read as numbers.
-/

namespace FillFeed

open Text

namespace Payload

/-- A text without the separators of envelopes and of payloads. -/
def Bare (t : String) : Prop := '|' ∉ t.toList ∧ '^' ∉ t.toList

/-- The texts of the fields of a payload. -/
structure Fields where
  symbol : String
  side : String
  order : String
  price : String
  quantity : String
  time : String

/-- What a payload tells of a fill, but for its symbol and its order. -/
structure Content where
  side : Side
  price : Numeral
  quantity : Numeral
  time : TimeOfDay

/-- A field with an amount: a number that can be read without rounding, with commas anywhere in
it. -/
def Amount (field : String) (n : Numeral) : Prop :=
  n.Exact ∧ ∃ word, Wraps field word ∧ n.Spelled word

namespace Fields

/-- The fields one after the other. -/
def texts (f : Fields) : List String := [f.symbol, f.side, f.order, f.price, f.quantity, f.time]

/-- The payload with these fields and others behind them. -/
def payload (f : Fields) (extra : List String) : String := "^".intercalate (f.texts ++ extra)

/-- The symbol of a payload or, without one, of its envelope. -/
def name (f : Fields) (given : String) : String :=
  if trim f.symbol = "" then trim given else trim f.symbol

/-- The fields tell of a fill: they name an order and write its side as the code of the feed, its
amounts as numbers and its time with two digits for each part. -/
structure Tells (f : Fields) (c : Content) : Prop where
  order : trim f.order ≠ ""
  side : c.side = .buy ∧ Wraps f.side ['0', '2'] ∨ c.side = .sell ∧ Wraps f.side ['0', '1']
  price : Amount f.price c.price
  quantity : Amount f.quantity c.quantity
  time : Wraps f.time (TimeOfDay.padded 2 c.time.hour ++
    (TimeOfDay.padded 2 c.time.minute ++ TimeOfDay.padded 2 c.time.second))
  whole_second : c.time.nanos = 0

end Fields

/-- A fill has what the fields of a payload tell, with the amounts exactly as they are written. -/
structure Conveyed (f : Fields) (c : Content) (fill : Fill) : Prop where
  side : fill.side = c.side
  orderId : fill.orderId = some (trim f.order)
  price : ∃ d, fill.price = some d ∧ d.value = c.price.value ∧ d.scale = c.price.scale
  quantity : ∃ d, fill.quantity = some d ∧ d.value = c.quantity.value ∧ d.scale = c.quantity.scale
  time : fill.time = some c.time

/-- A field with an amount is read as this amount, with as many decimals as are written. -/
lemma Amount.read {field : String} {n : Numeral} (amount : Amount field n) :
    ∃ d, (nonempty? (trim field)).bind decimal? = some d ∧ d.value = n.value ∧
      d.scale = n.scale := by
  obtain ⟨exact, word, wraps, spelled⟩ := amount
  have read : decimal? (String.ofList word) = some (n.toDecimal exact).dropZeroSign := by
    rw [decimal?, String.toList_ofList, spelled, n.read?_toChars exact]
  have filled : String.ofList word ≠ "" := by
    intro empty
    rw [empty] at read
    cases read
  obtain ⟨value, scale⟩ := (n.toDecimal exact).dropZeroSign_alike
  refine ⟨_, ?_, value.trans (n.value_toDecimal exact), scale⟩
  rw [trim_of_wraps wraps (Numeral.solid_of_spelled spelled), nonempty?, if_neg filled,
    Option.bind_some, read]

/-- The side that is told is read. -/
lemma Fields.Tells.side_read {f : Fields} {c : Content} (tells : f.Tells c) :
    (nonempty? (trim f.side)).elim .unknown Side.ofCode = c.side := by
  obtain ⟨side, wraps⟩ | ⟨side, wraps⟩ := tells.side
  all_goals
    rw [trim_of_wraps wraps (by simp [isBlank]), side]
    decide

/-- The time that is told is read. -/
lemma Fields.Tells.time_read {f : Fields} {c : Content} (tells : f.Tells c) :
    (nonempty? (trim f.time)).bind time? = some c.time := by
  have digits (n : ℕ) : ∃ ds, Digits (TimeOfDay.padded 2 n) ds := by
    obtain ⟨ds, digits, -⟩ := digits_padDigits 2 n
    exact ⟨ds, digits⟩
  obtain ⟨hours, inHour⟩ := digits c.time.hour
  obtain ⟨minutes, inMinute⟩ := digits c.time.minute
  obtain ⟨seconds, inSecond⟩ := digits c.time.second
  have trimmed := trim_of_wraps tells.time (inHour.append (inMinute.append inSecond)).solid
  have read : time? (trim f.time) = some c.time := by
    rw [trimmed, time?, String.toList_ofList, TimeOfDay.ofClock?_padded _ tells.whole_second]
  have filled : trim f.time ≠ "" := by
    intro empty
    rw [empty] at read
    cases read
  rw [nonempty?, if_neg filled, Option.bind_some, read]

/-- The parts of a payload are its fields without their blanks. -/
lemma parts_payload {f : Fields} {extra : List String}
    (apart : ∀ t ∈ f.texts ++ extra, separator ∉ t.toList) :
    parts (f.payload extra) = (f.texts ++ extra).map trim := by
  have some : f.texts ++ extra ≠ [] := List.cons_ne_nil _ _
  have mark : "^" = String.singleton separator := by decide
  rw [parts, Fields.payload, mark, split_intercalate some apart]

/-- What is read of a payload does not depend on what stands behind its six fields. -/
lemma fill?_payload {f : Fields} {c : Content} (tells : f.Tells c) {extra : List String}
    (apart : ∀ t ∈ f.texts ++ extra, '^' ∉ t.toList) (streamId : String) (market : Market)
    (given : String) :
    fill? streamId market (some given) (f.payload extra) =
      (nonempty? (f.name given)).map fun symbol =>
        { streamId, market, symbol
          side := c.side
          orderId := some (trim f.order)
          price := (nonempty? (trim f.price)).bind decimal?
          quantity := (nonempty? (trim f.quantity)).bind decimal?
          time := some c.time } := by
  have named :
      (nonempty? (trim f.symbol)).or (nonempty? (trim given)) = nonempty? (f.name given) := by
    unfold nonempty? Fields.name
    split_ifs <;> simp_all
  have order : nonempty? (trim f.order) = some (trim f.order) := if_neg tells.order
  rw [fill?, parts_payload apart]
  simp only [Fields.texts, List.cons_append, List.map_cons, List.getElem?_cons_zero,
    List.getElem?_cons_succ, Option.bind_some, named, order, tells.side_read, tells.time_read]
  cases nonempty? (f.name given) <;> rfl

end Payload

namespace Subscription

/-- The market of the last of some subscriptions to a stream. -/
def lastMarket (subscriptions : List Subscription) (streamId : String) : Market :=
  ((subscriptions.filter (·.streamId = streamId)).getLast?).elim .unknown market

end Subscription

namespace Codec

/-- A codec knows the market of the last subscription to a stream. -/
lemma market_ofSubscriptions (subscriptions : List Subscription) (streamId : String) :
    (ofSubscriptions subscriptions).market streamId =
      Subscription.lastMarket subscriptions streamId := by
  induction subscriptions using List.reverseRecOn with
  | nil => rfl
  | append_singleton subscriptions s ih =>
    rw [Codec.market, ofSubscriptions, Subscription.lastMarket] at *
    rw [List.map_append, List.reverse_append, List.filter_append]
    by_cases same : s.streamId = streamId
    · simp [same]
    · have other : (streamId == s.streamId) = false := by simpa using Ne.symm same
      simpa [same, other, List.lookup_cons] using ih

open Payload

/-- Whatever happened to a codec, a plain envelope whose payload has six fields that tell of a fill
is understood as this fill, in the market of the last subscription to its stream and with the symbol
of its payload or, without one, of its envelope. It does not matter which fields stand behind the
six. Without any symbol the envelope is no frame. -/
theorem payload_understood (subscriptions : List Subscription) (changes : List Change)
    {streamId symbol : String} {f : Fields} {c : Content} (inStream : '|' ∉ streamId.toList)
    (inSymbol : '|' ∉ symbol.toList) (inFields : ∀ t ∈ f.texts, Bare t) (tells : f.Tells c) :
    ∃ fill : Fill, Conveyed f c fill ∧ fill.streamId = trim streamId ∧
      fill.market = Subscription.lastMarket subscriptions (trim streamId) ∧
      fill.symbol = f.name symbol ∧
      ∀ extra : List String, (∀ t ∈ extra, Bare t) →
        ¬NamesToken (envelopeText "0" streamId symbol (f.payload extra)) →
        (after subscriptions changes).parse?
            (Utf8.encode (envelopeText "0" streamId symbol (f.payload extra))) =
          if f.name symbol = "" then none else some (.execution fill) := by
  obtain ⟨price, price_read, price_exact⟩ := tells.price.read
  obtain ⟨quantity, quantity_read, quantity_exact⟩ := tells.quantity.read
  -- the symbol is left open, because without one there is no fill
  let fill (name : String) : Fill :=
    { streamId := trim streamId
      market := Subscription.lastMarket subscriptions (trim streamId)
      symbol := name
      side := c.side
      orderId := some (trim f.order)
      price := some price
      quantity := some quantity
      time := some c.time }
  have conveyed : Conveyed f c (fill (f.name symbol)) :=
    ⟨rfl, rfl, ⟨price, rfl, price_exact⟩, ⟨quantity, rfl, quantity_exact⟩, rfl⟩
  refine ⟨fill (f.name symbol), conveyed, rfl, rfl, rfl, fun extra inExtra free => ?_⟩
  have bare : ∀ t ∈ f.texts ++ extra, Bare t := List.forall_mem_append.2 ⟨inFields, inExtra⟩
  have whole : ∀ t ∈ [streamId, symbol, f.payload extra], '|' ∉ t.toList := by
    have inPayload : '|' ∉ (f.payload extra).toList :=
      not_mem_intercalate (by decide) fun t mem => (bare t mem).1
    simp only [List.forall_mem_cons]
    exact ⟨inStream, inSymbol, inPayload, nofun⟩
  have market : (after subscriptions changes).market (trim streamId) =
      Subscription.lastMarket subscriptions (trim streamId) := by
    rw [← market_ofSubscriptions, Codec.market, markets_after, ← Codec.market]
  have parsed : (after subscriptions changes).parse?
        (Utf8.encode (envelopeText "0" streamId symbol (f.payload extra))) =
      ((nonempty? (f.name symbol)).map fill).map .execution := by
    rw [← isKeepalive_iff, Bool.not_eq_true] at free
    rw [parse?_plain_trim _ whole free, market, fill?_payload tells fun t mem => (bare t mem).2,
      price_read, quantity_read]
  rw [parsed, nonempty?]
  split <;> rfl

/-- Two subscriptions to one stream, after those of an account. -/
def doubledSubscriptions : List Subscription :=
  Subscription.all .paper "user" ++ [⟨.overseasFills, "H0STCNI9", "user"⟩]

/-- Fields with blanks around them and commas in their amounts, without a symbol. -/
def sampleFields : Fields := ⟨"\u3000", " 02 ", "\t7", " ,-1,.,50 ", "+,.5,", " 090159 "⟩

/-- What these fields tell. -/
def sampleContent : Content where
  side := .buy
  price := ⟨.minus, [1], some [5, 0]⟩
  quantity := ⟨.plus, [], some [5]⟩
  time := ⟨9, 1, 59, 0, by decide, by decide, by decide, by decide⟩

/-- The fields are understood, with the symbol of their envelope and one more field behind them. -/
theorem sampleFields_understood :
    (∀ t ∈ sampleFields.texts, Bare t) ∧ sampleFields.Tells sampleContent ∧
      ∃ fill : Fill, Conveyed sampleFields sampleContent fill ∧ fill.streamId = "H0STCNI9" ∧
        fill.market = .overseas ∧ fill.symbol = "005930" ∧
        (after doubledSubscriptions longHistory).parse? (Utf8.encode
            (envelopeText "0" " H0STCNI9" "005930 " (sampleFields.payload ["more"]))) =
          some (.execution fill) := by
  have inFields : ∀ t ∈ sampleFields.texts, Bare t := by
    unfold Bare
    decide
  have tells : sampleFields.Tells sampleContent :=
    { order := by decide
      side := .inl ⟨rfl, [' '], [' '], by simp [isBlank], by decide⟩
      price := ⟨⟨nofun, by decide, by decide⟩, [',', '-', '1', ',', '.', ',', '5', '0'],
        ⟨[' '], [' '], by simp [isBlank], by decide⟩, by unfold Numeral.Spelled; decide⟩
      quantity := ⟨⟨nofun, by decide, by decide⟩, ['+', ',', '.', '5', ','],
        ⟨[], [], nofun, by decide⟩, by unfold Numeral.Spelled; decide⟩
      time := ⟨[' '], [' '], by simp [isBlank], by decide⟩
      whole_second := rfl }
  obtain ⟨fill, conveyed, streamId, market, symbol, read⟩ :=
    payload_understood doubledSubscriptions longHistory (by decide : '|' ∉ " H0STCNI9".toList)
      (by decide : '|' ∉ "005930 ".toList) inFields tells
  have name : sampleFields.name "005930 " = "005930" := by decide
  have inMore : ∀ t ∈ ["more"], Bare t := by
    unfold Bare
    decide
  have free : ¬NamesToken
      (envelopeText "0" " H0STCNI9" "005930 " (sampleFields.payload ["more"])) :=
    not_namesToken (by decide +kernel)
  have read := read ["more"] inMore free
  rw [name] at symbol read
  exact ⟨inFields, tells, fill, conveyed, streamId, market, symbol, read⟩

end Codec

end FillFeed
