import Mathlib
import FillFeed.Proofs.Frame.Envelope
import FillFeed.Proofs.Numeric.Product

/-!
# Notional values of fills from frames

Price and quantity of a fill are whatever decimals the payload of its frame denotes
(`Codec.fill?_of_parse?`), so that nothing bounds their product. The notional value of a fill that
was read overflows exactly when this product reaches the midpoint above the largest mantissa
(`Codec.notional_overflows_iff`), and every codec reads some frame whose fill does so
(`Codec.exists_notional_overflow`).
-/

namespace FillFeed

/-- A notional value fails only where price times quantity is out of range. -/
lemma Fill.notional_eq_overflow_iff {fill : Fill} :
    fill.notional = .error .overflow ↔ ∃ price quantity, fill.price = some price ∧
      fill.quantity = some quantity ∧ 2 ^ 96 - 1 / 2 ≤ price.magnitude * quantity.magnitude := by
  unfold notional
  split
  · rename_i price quantity hp hq
    simp only [hp, hq, Option.some.injEq, ← Decimal.mul?_eq_none_iff]
    split
    · rename_i product fits
      simp [fits]
    · rename_i tooLarge
      simp [tooLarge]
  · rename_i missing
    simp only [reduceCtorEq, false_iff]
    rintro ⟨price, quantity, hp, hq, -⟩
    exact missing price quantity hp hq

/-- A fill has no notional value exactly when it has no price or no quantity. -/
lemma Fill.notional_eq_none_iff {fill : Fill} :
    fill.notional = .ok none ↔ fill.price = none ∨ fill.quantity = none := by
  unfold notional
  split
  · rename_i price quantity hp hq
    simp only [hp, hq, reduceCtorEq, or_self, iff_false]
    split <;> simp
  · rename_i missing
    simp only [true_iff]
    cases hp : fill.price with
    | none => exact .inl rfl
    | some price =>
      cases hq : fill.quantity with
      | none => exact .inr rfl
      | some quantity => exact absurd hq (missing price quantity hp)

namespace Payload

/-- The decimal in a part of a payload. -/
def decimalAt? (payload : String) (i : Nat) : Option Decimal :=
  (((parts payload)[i]?).bind nonempty?).bind decimal?

/-- The price and the quantity of a fill are the decimals at their places in the payload. -/
lemma amounts_of_fill? {streamId : String} {market : Market} {symbol : Option String}
    {payload : String} {fill : Fill} (read : fill? streamId market symbol payload = some fill) :
    fill.price = decimalAt? payload 3 ∧ fill.quantity = decimalAt? payload 4 := by
  unfold fill? at read
  dsimp only at read
  split at read
  · cases read
  · cases read
    exact ⟨rfl, rfl⟩

end Payload

namespace Codec

open Text

/-- The payload that an envelope carries, decrypted where it has to be. -/
def payload? (c : Codec) (text : String) : Option String :=
  match split separator text with
  | flag :: stream :: third :: rest =>
    if trim flag = "0" then some (rest.head?.getD third)
    else if trim flag = "1" then
      match rest.head?, c.context? (trim stream) with
      | some ciphertext, some context => (context.decrypt ciphertext).toOption
      | _, _ => none
    else none
  | _ => none

/-- A fill is the fill in the payload that its frame carries. -/
lemma fill?_of_envelope? {c : Codec} {text : String} {fill : Fill}
    (read : c.envelope? text = some fill) :
    ∃ payload, c.payload? text = some payload ∧ ∃ streamId symbol,
      Payload.fill? streamId (c.market streamId) symbol payload = some fill := by
  rcases fields : split separator text with _ | ⟨flag, _ | ⟨stream, _ | ⟨third, rest⟩⟩⟩
  case cons.cons.cons =>
    simp only [envelope?, fields] at read
    simp only [payload?, fields]
    by_cases plain : trim flag = "0"
    · rw [if_pos plain] at read ⊢
      cases head : rest.head? with
      -- without a fourth field the third one is the payload
      | none =>
        rw [head] at read
        exact ⟨third, rfl, _, _, read⟩
      | some payload =>
        rw [head] at read
        exact ⟨payload, rfl, _, _, read⟩
    rw [if_neg plain] at read ⊢
    by_cases encrypted : trim flag = "1"
    · rw [if_pos encrypted] at read ⊢
      cases head : rest.head? with
      | none => simp [encrypted?, head] at read
      | some ciphertext =>
        cases held : c.context? (trim stream) with
        | none => simp [encrypted?, head, held] at read
        | some context =>
          simp only [encrypted?, head, held] at read ⊢
          cases decrypted : context.decrypt ciphertext with
          | error => simp [decrypted] at read
          | ok payload =>
            rw [decrypted] at read
            exact ⟨payload, rfl, _, _, read⟩
    · rw [if_neg encrypted] at read
      cases read
  all_goals simp [envelope?, fields] at read

/-- A fill that is read from a frame is read from the payload of the frame. -/
lemma fill?_of_parse? {c : Codec} {raw : List UInt8} {fill : Fill}
    (parsed : c.parse? raw = some (.execution fill)) :
    ∃ text payload, Utf8.decode? raw = some text ∧ c.payload? (trim text) = some payload ∧
      ∃ streamId symbol, Payload.fill? streamId (c.market streamId) symbol payload = some fill := by
  obtain ⟨text, decoded, parsed⟩ := Option.bind_eq_some_iff.1 parsed
  unfold parseText? at parsed
  dsimp only at parsed
  split at parsed
  · cases parsed
  split at parsed
  · cases parsed
  split at parsed
  · obtain ⟨value, -, e⟩ := Option.map_eq_some_iff.1 parsed
    cases e
  · obtain ⟨_, read, e⟩ := Option.map_eq_some_iff.1 parsed
    cases e
    obtain ⟨payload, carried, made⟩ := fill?_of_envelope? read
    exact ⟨text, payload, decoded, carried, made⟩

/-- The notional value of a fill that was read from a frame overflows exactly when the decimals at
the places of price and quantity in its payload have a product that reaches the midpoint above the
largest mantissa. It is absent exactly when one of them is. -/
theorem notional_overflows_iff (c : Codec) {raw : List UInt8} {fill : Fill}
    (parsed : c.parse? raw = some (.execution fill)) :
    ∃ text payload, Utf8.decode? raw = some text ∧ c.payload? (trim text) = some payload ∧
      (fill.notional = .error .overflow ↔
        ∃ price quantity, Payload.decimalAt? payload 3 = some price ∧
          Payload.decimalAt? payload 4 = some quantity ∧
          2 ^ 96 - 1 / 2 ≤ price.magnitude * quantity.magnitude) ∧
      (fill.notional = .ok none ↔
        Payload.decimalAt? payload 3 = none ∨ Payload.decimalAt? payload 4 = none) := by
  obtain ⟨text, payload, decoded, carried, streamId, symbol, made⟩ := fill?_of_parse? parsed
  obtain ⟨price, quantity⟩ := Payload.amounts_of_fill? made
  refine ⟨text, payload, decoded, carried, ?_, ?_⟩
  · rw [← price, ← quantity]
    exact Fill.notional_eq_overflow_iff
  · rw [← price, ← quantity]
    exact Fill.notional_eq_none_iff

/-- A payload with the largest decimal as its quantity. -/
def largestPayload : String := "A^01^1^3^79228162514264337593543950335^"

/-- A plain frame with this payload. -/
def largestFrame : List UInt8 := Utf8.encode (envelopeText "0" "H0STCNI9" "x" largestPayload)

/-- Every codec reads the largest frame as a fill with these two amounts. -/
lemma parse?_largestFrame (c : Codec) :
    ∃ fill, c.parse? largestFrame = some (.execution fill) ∧ fill.price = Decimal.signed? false 3 0 ∧
      fill.quantity = Decimal.signed? false (twoPow 96 - 1) 0 :=
  ⟨_, parse?_plain c (by decide) (by decide) (by decide), rfl, rfl⟩

/-- Every codec reads a fill from some frame whose notional value overflows. -/
theorem exists_notional_overflow (c : Codec) :
    ∃ raw fill, c.parse? raw = some (.execution fill) ∧ fill.notional = .error .overflow := by
  obtain ⟨fill, parsed, price, quantity⟩ := parse?_largestFrame c
  refine ⟨largestFrame, fill, parsed, ?_⟩
  rw [Fill.notional, price, quantity]
  rfl

/-- The product of price and quantity in the frame with the largest quantity is out of range. -/
theorem largestFrame_overflows :
    ∃ fill, (ofSubscriptions (Subscription.all .paper "user")).parse? largestFrame =
      some (.execution fill) ∧ fill.notional = .error .overflow := by
  obtain ⟨fill, parsed, -, -⟩ := parse?_largestFrame (ofSubscriptions (Subscription.all .paper "user"))
  obtain ⟨text, payload, decoded, carried, overflow, -⟩ := notional_overflows_iff _ parsed
  have text_eq : envelopeText "0" "H0STCNI9" "x" largestPayload = text := by
    rw [← Option.some_inj, ← decoded, largestFrame, Utf8.decode?_encode]
  have payload_eq : largestPayload = payload := by
    rw [← Option.some_inj, ← carried, ← text_eq]
    decide
  refine ⟨fill, parsed, overflow.2 ?_⟩
  rw [← payload_eq]
  refine ⟨⟨false, 3, 0, by decide, by decide⟩,
    ⟨false, twoPow 96 - 1, 0, by decide, by decide⟩, by decide, by decide, ?_⟩
  norm_num [Decimal.magnitude, twoPow]

end Codec

end FillFeed
