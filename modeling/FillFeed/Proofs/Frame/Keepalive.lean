import Mathlib
import FillFeed.Proofs.Frame.Envelope

/-!
# Ciphertexts that name the keepalive token

A frame is a keepalive wherever the token stands in it, and the digits of a ciphertext are letters
too. An encrypted envelope whose other fields do not name the token is a keepalive exactly when its
ciphertext does (`encrypted_keepalive_iff`). Nothing about a key or a payload rules this out: the
first block of a chain can be steered to any block by the initial vector
(`Cipher.Context.exists_vector`), so that under every key every payload is taken for a keepalive
with some vector (`exists_vector_keepalive`).
-/

namespace FillFeed

namespace Text

/-- A word without the separator does not reach over the end of a field. -/
lemma infix_fields_iff {word front back : List Char} {sep : Char} (apart : sep ∉ word) :
    word <:+: front ++ sep :: back ↔ word <:+: front ∨ word <:+: back := by
  have first {w : List Char} (within : w ⊆ word) : w <+: sep :: back ↔ w = [] := by
    rw [List.prefix_cons_iff]
    refine ⟨?_, .inl⟩
    rintro (nothing | ⟨w', rfl, -⟩)
    · exact nothing
    · exact absurd (within List.mem_cons_self) apart
  rw [List.infix_append_iff, List.infix_cons_iff, first (List.Subset.refl word)]
  constructor
  · rintro (inFront | (rfl | inBack) | ⟨w, w', rfl, ends, begins⟩)
    · exact .inl inFront
    · exact .inl (List.nil_infix)
    · exact .inr inBack
    · rw [first (List.subset_append_right w w')] at begins
      rw [begins, List.append_nil]
      exact .inl ends.isInfix
  · rintro (inFront | inBack)
    · exact .inl inFront
    · exact .inr (.inl (.inr inBack))

end Text

namespace Aes

/-- Blocks are added in any order. -/
lemma Block.add_comm (k l : Block) : k.add l = l.add k := by
  simp only [Block.add, Column.add, UInt8.xor_comm]

end Aes

namespace Cipher.Context

open Aes

/-- Under every key there is an initial vector with which a text is encrypted to a chain that begins
with a given block. -/
lemma exists_vector (c : Context) (plain : List UInt8) (target : Block) :
    ∃ other : Context, other.key = c.key ∧
      ∃ rest, other.encryptBytes plain = target.toBytes ++ rest := by
  obtain ⟨p, ps, padded⟩ : ∃ p ps, blocks (columns (Cbc.pad plain)) = p :: ps := by
    refine List.exists_cons_of_ne_nil fun none => ?_
    have nothing : [] = Cbc.pad plain := by
      rw [← flatMap_toBytes_blocks (Cbc.length_pad plain), none, List.flatMap_nil]
    have longer := congrArg List.length nothing
    rw [Cbc.pad, List.length_append, List.length_replicate, List.length_nil] at longer
    omega
  -- the first block of the text is added to this one before it is encrypted
  let vector : Block := (Aes.decrypt (roundKeys c.key) target).add p
  have added : p.add vector = Aes.decrypt (roundKeys c.key) target := by
    rw [Block.add_comm]
    exact Block.add_add_cancel _ _
  let other : Context := ⟨c.key, vector.toBytes, c.key_length, rfl⟩
  have first : other.firstBlock = vector := rfl
  refine ⟨other, rfl, (Cbc.encrypt (roundKeys c.key) target ps).flatMap Block.toBytes, ?_⟩
  rw [encryptBytes, first, padded, Cbc.encrypt, added, Aes.encrypt_decrypt]
  rfl

end Cipher.Context

namespace Codec

open Text

/-- The keepalive token stands in a text, in any case of its letters. -/
def NamesToken (s : String) : Prop :=
  ∃ word, word <:+: s.toList ∧ word.map asciiLower = keepaliveToken

/-- A text is taken for a keepalive if and only if the token stands in it. -/
lemma isKeepalive_iff {s : String} : isKeepalive s = true ↔ NamesToken s := by
  rw [isKeepalive, containsChars_iff, List.infix_map_iff]
  simp only [NamesToken, eq_comm]

/-- The token does not stand in a text that is not taken for a keepalive. -/
lemma not_namesToken {s : String} (unnamed : isKeepalive s = false) : ¬NamesToken s := by
  rw [← isKeepalive_iff, unnamed]
  exact Bool.false_ne_true

/-- A text is a keepalive when it names the token, whatever else it is. -/
lemma parseText?_eq_keepalive_iff {c : Codec} {text raw : String} :
    c.parseText? text = some (.keepalive raw) ↔ NamesToken (trim text) ∧ text = raw := by
  rw [← isKeepalive_iff]
  unfold parseText?
  dsimp only
  split
  · rename_i empty
    simp [empty, isKeepalive, containsChars, keepaliveToken]
  split
  · rename_i token
    simp [token]
  · rename_i free
    split <;> simp [free]

/-- The token stands in an encrypted envelope when it stands in one of its fields. -/
lemma namesToken_envelopeText {streamId symbol payload : String} :
    NamesToken (envelopeText "1" streamId symbol payload) ↔
      NamesToken streamId ∨ NamesToken symbol ∨ NamesToken payload := by
  simp only [NamesToken]
  rw [← exists_or, ← exists_or]
  refine exists_congr fun word => ?_
  rw [← or_and_right, ← or_and_right]
  refine and_congr_left fun token => ?_
  -- the token is longer than the flag, and no separator is a letter of it
  have short : ¬word <:+: "1".toList := by
    intro inside
    have length := congrArg List.length token
    have := inside.length_le
    simp [keepaliveToken] at *
    omega
  have apart : '|' ∉ word := by
    intro mem
    have mapped := List.mem_map_of_mem (f := asciiLower) mem
    rw [token] at mapped
    revert mapped
    decide
  rw [toList_envelopeText, infix_fields_iff apart, infix_fields_iff apart, infix_fields_iff apart,
    or_iff_right short]

/-- An encrypted envelope for a stream and a symbol that do not name the keepalive token is taken
for a keepalive exactly when its ciphertext names the token, whatever contexts the codec holds, and
the whole frame is then what the keepalive carries. -/
theorem encrypted_keepalive_iff (c : Codec) (context : Cipher.Context) {streamId symbol : String}
    (streamFree : ¬NamesToken streamId) (symbolFree : ¬NamesToken symbol)
    (payload raw : String) :
    c.parse? (Utf8.encode (envelopeText "1" streamId symbol (context.encrypt payload))) =
        some (.keepalive raw) ↔
      NamesToken (context.encrypt payload) ∧
        envelopeText "1" streamId symbol (context.encrypt payload) = raw := by
  rw [parse?_encode, parseText?_eq_keepalive_iff, trim_encrypted, namesToken_envelopeText,
    or_iff_right streamFree, or_iff_right symbolFree]

/-- The ciphertext of a fill in the sample context does not name the token, and so no keepalive is
read from it. -/
theorem sampleFrame_no_keepalive :
    ¬NamesToken "H0STCNI9" ∧ ¬NamesToken "005930" ∧ ∀ raw, sampleCodec.parse?
      (Utf8.encode (envelopeText "1" "H0STCNI9" "005930" (sampleContext.encrypt samplePayload))) ≠
        some (.keepalive raw) := by
  have streamFree : ¬NamesToken "H0STCNI9" := not_namesToken (by decide)
  have symbolFree : ¬NamesToken "005930" := not_namesToken (by decide)
  have cipherFree : ¬NamesToken (sampleContext.encrypt samplePayload) :=
    not_namesToken (by decide +kernel)
  refine ⟨streamFree, symbolFree, fun raw taken => cipherFree ?_⟩
  exact ((encrypted_keepalive_iff sampleCodec sampleContext streamFree symbolFree _ raw).1 taken).1

/-- The context that a connection has for a stream. -/
def collidingContext : Cipher.Context :=
  ⟨Utf8.encode "0123456789abcdef0123456789abcdef", Utf8.encode "m4y7KVIyj7CGOYCa", by decide,
    by decide⟩

/-- The codec of this connection. -/
def collidingCodec : Codec :=
  (ofSubscriptions (Subscription.all .paper "hts")).register "H0STCNI9" collidingContext

/-- A fill that is taken for a keepalive: neither the stream nor the symbol nor the payload names
the token, but the ciphertext of the payload does. -/
theorem collidingCodec_keepalive :
    collidingCodec.context? "H0STCNI9" = some collidingContext ∧
      ¬NamesToken "H0STCNI9" ∧ ¬NamesToken "005930" ∧ ¬NamesToken "005930^02^7^9^1" ∧
      collidingCodec.parse? (Utf8.encode
          (envelopeText "1" "H0STCNI9" "005930" (collidingContext.encrypt "005930^02^7^9^1"))) =
        some (.keepalive "1|H0STCNI9|005930|k/3HpingpongoCy+pbezgQ==") := by
  have ciphertext : collidingContext.encrypt "005930^02^7^9^1" = "k/3HpingpongoCy+pbezgQ==" := by
    decide +kernel
  have streamFree : ¬NamesToken "H0STCNI9" := not_namesToken (by decide)
  have symbolFree : ¬NamesToken "005930" := not_namesToken (by decide)
  have payloadFree : ¬NamesToken "005930^02^7^9^1" := not_namesToken (by decide)
  refine ⟨rfl, streamFree, symbolFree, payloadFree, ?_⟩
  rw [parse?_encode, parseText?_eq_keepalive_iff, trim_encrypted, ciphertext, ← isKeepalive_iff]
  exact ⟨by decide, rfl⟩

/-- A block that begins with the six bytes whose digits spell the token. -/
def tokenBlock : Aes.Block :=
  ⟨⟨0xa6, 0x29, 0xe0, 0xa6⟩, ⟨0x89, 0xe0, 0, 0⟩, ⟨0, 0, 0, 0⟩, ⟨0, 0, 0, 0⟩⟩

/-- The six bytes are written as the token. -/
lemma encode_token (rest : List UInt8) :
    Base64.encode (0xa6 :: 0x29 :: 0xe0 :: 0xa6 :: 0x89 :: 0xe0 :: rest) =
      keepaliveToken ++ Base64.encode rest := by
  simp [Base64.encode, Base64.digit, keepaliveToken]

/-- What begins with the block is written with the token in front. -/
lemma encode_tokenBlock (rest : List UInt8) :
    keepaliveToken <+: Base64.encode (tokenBlock.toBytes ++ rest) := by
  have bytes : tokenBlock.toBytes ++ rest =
      0xa6 :: 0x29 :: 0xe0 :: 0xa6 :: 0x89 :: 0xe0 :: (List.replicate 10 0 ++ rest) := rfl
  rw [bytes, encode_token]
  exact List.prefix_append _ _

/-- Under every key every payload is taken for a keepalive with some initial vector. -/
theorem exists_vector_keepalive (c : Codec) (context : Cipher.Context)
    (streamId symbol payload : String) :
    ∃ other : Cipher.Context, other.key = context.key ∧ ∃ raw,
      c.parse? (Utf8.encode (envelopeText "1" streamId symbol (other.encrypt payload))) =
        some (.keepalive raw) := by
  obtain ⟨other, key, rest, begins⟩ := context.exists_vector (Utf8.encode payload) tokenBlock
  refine ⟨other, key, _, parse?_encode .. ▸ parseText?_eq_keepalive_iff.2 ⟨?_, rfl⟩⟩
  rw [trim_encrypted, namesToken_envelopeText]
  refine .inr (.inr ⟨keepaliveToken, ?_, by decide⟩)
  rw [Cipher.Context.encrypt, String.toList_ofList, begins]
  exact (encode_tokenBlock rest).isInfix

end Codec

end FillFeed
