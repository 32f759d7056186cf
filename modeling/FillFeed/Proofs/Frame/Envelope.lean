import Mathlib
import FillFeed.Frame.Codec
import FillFeed.Proofs.Cipher.Exactness
import FillFeed.Proofs.Frame.Fields

/-!
# Plain and encrypted envelopes

The same payload is understood in the same way whether it is sent as it is or encrypted
(`parse?_plain_eq_encrypted`). The two ways differ before they meet: a plain frame loses the blanks
at its end with the last field, while the digits of a ciphertext have none and what is decrypted
is not trimmed at all. `parseText?_envelope` is what both have in common.
-/

namespace FillFeed

namespace Text

/-- A word is looked for wherever it can stand. -/
lemma containsChars_iff {word cs : List Char} : containsChars word cs = true ↔ word <:+: cs := by
  induction cs with
  | nil => simp [containsChars]
  | cons c cs ih =>
    rw [containsChars, Bool.or_eq_true, ih, List.isPrefixOf_iff_prefix, List.infix_cons_iff]

end Text

namespace Codec

open Text

/-- The text of an envelope with these fields. -/
def envelopeText (flag streamId symbol payload : String) : String :=
  flag ++ "|" ++ streamId ++ "|" ++ symbol ++ "|" ++ payload

/-- The characters of an envelope. -/
lemma toList_envelopeText (flag streamId symbol payload : String) :
    (envelopeText flag streamId symbol payload).toList =
      flag.toList ++ '|' :: (streamId.toList ++ '|' ::
        (symbol.toList ++ '|' :: payload.toList)) := by
  simp [envelopeText]

section

variable {flag streamId symbol payload : String}

/-- An envelope that does not begin with a blank can lose nothing but blanks at the end of its last
field. -/
lemma trim_envelopeText (solid : ∀ x ∈ flag.toList, isBlank x = false) :
    trim (envelopeText flag streamId symbol payload) =
      envelopeText flag streamId symbol (String.ofList (trimEnd payload.toList)) := by
  rw [← String.toList_inj, toList_trim, toList_envelopeText, toList_envelopeText,
    String.toList_ofList]
  have front : dropBlanks (flag.toList ++ '|' :: (streamId.toList ++ '|' ::
        (symbol.toList ++ '|' :: payload.toList))) =
      flag.toList ++ '|' :: (streamId.toList ++ '|' ::
        (symbol.toList ++ '|' :: payload.toList)) := by
    apply dropBlanks_of_head
    intro x mem
    rw [List.head?_append, Option.mem_def, Option.or_eq_some_iff] at mem
    obtain first | ⟨-, bar⟩ := mem
    · exact solid x (List.mem_of_head? first)
    · cases bar
      decide
  have bar : isBlank '|' = false := by decide
  rw [trimChars_eq, front, trimEnd_append_cons _ bar, trimEnd_append_cons _ bar,
    trimEnd_append_cons _ bar]

/-- A ciphertext has no blanks in it, so that an envelope loses nothing of it. -/
lemma trim_encrypted (context : Cipher.Context) :
    trim (envelopeText "1" streamId symbol (context.encrypt payload)) =
      envelopeText "1" streamId symbol (context.encrypt payload) := by
  have digits : trimEnd (context.encrypt payload).toList = (context.encrypt payload).toList :=
    trimEnd_of_solid fun x mem => (context.plain_of_mem_encrypt mem).1
  rw [trim_envelopeText (by simp [isBlank]), digits, String.ofList_toList]

/-- A text that is free of the token is so without the blanks around it. -/
lemma isKeepalive_trim {text : String} (free : isKeepalive text = false) :
    isKeepalive (trim text) = false := by
  rw [← Bool.not_eq_true, isKeepalive, containsChars_iff] at free ⊢
  intro token
  have inside : (trim text).toList <:+: text.toList := by
    rw [toList_trim]
    exact trimChars_infix text.toList
  exact free (token.trans (inside.map asciiLower))

/-- The fields of an envelope are the ones that it was made of. -/
lemma split_envelopeText (whole : ∀ field ∈ [flag, streamId, symbol, payload], '|' ∉ field.toList) :
    split separator (envelopeText flag streamId symbol payload) =
      [flag, streamId, symbol, payload] := by
  simp only [List.forall_mem_cons] at whole
  obtain ⟨inFlag, inStream, inSymbol, inPayload, -⟩ := whole
  rw [split, toList_envelopeText, separator, splitChars_append_sep inFlag,
    splitChars_append_sep inStream, splitChars_append_sep inSymbol, splitChars_of_not_mem inPayload]
  simp

/-- The frame of a text is parsed like the text. -/
lemma parse?_encode (c : Codec) (text : String) :
    c.parse? (Utf8.encode text) = c.parseText? text := by
  rw [parse?, Utf8.decode?_encode, Option.bind_some]

/-- A frame that begins with a flag, has four fields and names no keepalive is an envelope, whose
payload has lost the blanks at its end. -/
lemma parseText?_envelope (c : Codec) (known : flag = "0" ∨ flag = "1")
    (whole : ∀ field ∈ [flag, streamId, symbol, payload], '|' ∉ field.toList)
    (free : isKeepalive (envelopeText flag streamId symbol payload) = false) :
    c.parseText? (envelopeText flag streamId symbol payload) =
      (if trim flag = "0" then
        c.plain? (trim streamId) symbol (some (String.ofList (trimEnd payload.toList)))
      else if trim flag = "1" then
        c.encrypted? (trim streamId) symbol (some (String.ofList (trimEnd payload.toList)))
      else none).map .execution := by
  have solid : ∀ x ∈ flag.toList, isBlank x = false := by
    obtain rfl | rfl := known <;> simp [isBlank]
  have fields : ∀ field ∈ [flag, streamId, symbol, String.ofList (trimEnd payload.toList)],
      '|' ∉ field.toList := by
    simp only [List.forall_mem_cons] at whole ⊢
    obtain ⟨inFlag, inStream, inSymbol, inPayload, -⟩ := whole
    refine ⟨inFlag, inStream, inSymbol, ?_, by simp⟩
    rw [String.toList_ofList]
    exact fun mem => inPayload (mem_of_mem_trimEnd mem)
  have notEmpty : trim (envelopeText flag streamId symbol payload) ≠ "" := by
    rw [trim_envelopeText solid, ne_eq, ← String.toList_inj, toList_envelopeText]
    simp
  have noBrace : (trim (envelopeText flag streamId symbol payload)).toList.head? ≠ some '\x7b' := by
    rw [trim_envelopeText solid, toList_envelopeText]
    obtain rfl | rfl := known <;> simp
  rw [parseText?, if_neg notEmpty, isKeepalive_trim free, if_neg Bool.false_ne_true, if_neg noBrace,
    envelope?, trim_envelopeText solid, split_envelopeText fields]
  rfl

/-- What is read of a plain envelope is the fill in its payload, for the stream that it names. -/
lemma parse?_plain_trim (c : Codec)
    (whole : ∀ field ∈ [streamId, symbol, payload], '|' ∉ field.toList)
    (free : isKeepalive (envelopeText "0" streamId symbol payload) = false) :
    c.parse? (Utf8.encode (envelopeText "0" streamId symbol payload)) =
      (Payload.fill? (trim streamId) (c.market (trim streamId)) (some symbol) payload).map
        .execution := by
  have fields : ∀ field ∈ ["0", streamId, symbol, payload], '|' ∉ field.toList := by
    rw [List.forall_mem_cons]
    exact ⟨by decide, whole⟩
  rw [parse?_encode, parseText?_envelope c (.inl rfl) fields free, if_pos (by decide), plain?,
    Payload.fill?_trimEnd]

/-- A plain envelope gives the fill in its payload. -/
lemma parse?_plain (c : Codec) (bare : trim streamId = streamId)
    (whole : ∀ field ∈ [streamId, symbol, payload], '|' ∉ field.toList)
    (free : isKeepalive (envelopeText "0" streamId symbol payload) = false) :
    c.parse? (Utf8.encode (envelopeText "0" streamId symbol payload)) =
      (Payload.fill? streamId (c.market streamId) (some symbol) payload).map .execution := by
  rw [parse?_plain_trim c whole free, bare]

/-- An encrypted envelope gives the fill in the payload that was encrypted. -/
lemma parse?_encrypted (c : Codec) {context : Cipher.Context}
    (held : c.context? streamId = some context) (bare : trim streamId = streamId)
    (whole : ∀ field ∈ [streamId, symbol], '|' ∉ field.toList)
    (free : isKeepalive (envelopeText "1" streamId symbol (context.encrypt payload)) = false) :
    c.parse? (Utf8.encode (envelopeText "1" streamId symbol (context.encrypt payload))) =
      (Payload.fill? streamId (c.market streamId) (some symbol) payload).map .execution := by
  have fields : ∀ field ∈ ["1", streamId, symbol, context.encrypt payload],
      '|' ∉ field.toList := by
    simp only [List.forall_mem_cons] at whole ⊢
    obtain ⟨inStream, inSymbol, -⟩ := whole
    refine ⟨by decide, inStream, inSymbol, ?_, by simp⟩
    exact fun mem => (context.plain_of_mem_encrypt mem).2 rfl
  have digits : trimEnd (context.encrypt payload).toList = (context.encrypt payload).toList :=
    trimEnd_of_solid fun x mem => (context.plain_of_mem_encrypt mem).1
  rw [parse?_encode, parseText?_envelope c (.inr rfl) fields free, if_neg (by decide),
    if_pos (by decide), bare, digits, String.ofList_toList]
  simp only [encrypted?, held, context.decrypt_encrypt]

end

/-- Under a codec that holds a context for a stream, a payload sent as it is and the same payload
encrypted are understood as the same fill, or neither is one, provided that no field has a separator
in it and neither text names a keepalive. -/
theorem parse?_plain_eq_encrypted (c : Codec) {context : Cipher.Context}
    {streamId symbol payload : String} (held : c.context? streamId = some context)
    (bare : trim streamId = streamId)
    (whole : ∀ field ∈ [streamId, symbol, payload], '|' ∉ field.toList)
    (plainFree : isKeepalive (envelopeText "0" streamId symbol payload) = false)
    (cipherFree :
      isKeepalive (envelopeText "1" streamId symbol (context.encrypt payload)) = false) :
    c.parse? (Utf8.encode (envelopeText "0" streamId symbol payload)) =
        c.parse? (Utf8.encode (envelopeText "1" streamId symbol (context.encrypt payload))) ∧
      c.parse? (Utf8.encode (envelopeText "0" streamId symbol payload)) =
        (Payload.fill? streamId (c.market streamId) (some symbol) payload).map .execution := by
  have shorter : ∀ field ∈ [streamId, symbol], '|' ∉ field.toList := by
    simp only [List.forall_mem_cons] at whole ⊢
    exact ⟨whole.1, whole.2.1, by simp⟩
  have plain := parse?_plain c bare whole plainFree
  have encrypted := parse?_encrypted c held bare shorter cipherFree
  exact ⟨plain.trans encrypted.symm, plain⟩

/-- The context of a domestic stream. -/
def sampleContext : Cipher.Context :=
  ⟨Utf8.encode "fedcba9876543210", Utf8.encode "0123456789abcdef", by decide, by decide⟩

/-- A codec with this context. -/
def sampleCodec : Codec := ⟨[("H0STCNI9", .domestic)], [("H0STCNI9", sampleContext)]⟩

/-- A payload with a symbol of nothing but blanks and with a blank at its end. -/
def samplePayload : String := " ^02^7^71000 "

/-- The fill in this payload. -/
def sampleFill : Fill :=
  ⟨"H0STCNI9", .domestic, "005930", .buy, some "7", Decimal.signed? false 71000 0, none, none⟩

/-- The payload gives the same fill as it is and encrypted. -/
theorem sampleCodec_agrees :
    sampleCodec.parse? (Utf8.encode (envelopeText "0" "H0STCNI9" "005930" samplePayload)) =
        sampleCodec.parse? (Utf8.encode
          (envelopeText "1" "H0STCNI9" "005930" (sampleContext.encrypt samplePayload))) ∧
      sampleCodec.parse? (Utf8.encode (envelopeText "0" "H0STCNI9" "005930" samplePayload)) =
        some (.execution sampleFill) := by
  have held : sampleCodec.context? "H0STCNI9" = some sampleContext := rfl
  have whole : ∀ field ∈ ["H0STCNI9", "005930", samplePayload], '|' ∉ field.toList := by decide
  have plainFree :
      isKeepalive (envelopeText "0" "H0STCNI9" "005930" samplePayload) = false := by
    decide
  have cipherFree : isKeepalive (envelopeText "1" "H0STCNI9" "005930"
      (sampleContext.encrypt samplePayload)) = false := by
    decide +kernel
  have read : Payload.fill? "H0STCNI9" (sampleCodec.market "H0STCNI9") (some "005930")
      samplePayload = some sampleFill := by
    decide
  obtain ⟨same, fill⟩ :=
    parse?_plain_eq_encrypted sampleCodec held (by decide) whole plainFree cipherFree
  rw [read] at fill
  exact ⟨same, fill⟩

end Codec

end FillFeed
