import Mathlib
import FillFeed.Cipher.Context
import FillFeed.Proofs.Cipher.Base64
import FillFeed.Proofs.Cipher.Chain

/-!
# Exactness of decryption

Under any key and initial vector, a ciphertext decrypts to a text exactly when it is, but for blanks
around it, what encrypting the text produces (`decrypts_exactly`). Decryption goes through base64,
the chain of blocks, the padding and UTF-8; each of these steps is exact, and so they are together.
-/

namespace FillFeed.Cipher.Context

open Aes

section

variable (c : Context)

/-- Bytes decrypt to others exactly when they are what encrypting these produces. -/
lemma decryptBytes_eq_ok_iff {bytes plain : List UInt8} :
    c.decryptBytes bytes = .ok plain ↔ c.encryptBytes plain = bytes := by
  constructor
  · intro decrypted
    unfold decryptBytes at decrypted
    split at decrypted
    · cases decrypted
    · rename_i whole
      have whole : bytes.length % 16 = 0 := Decidable.not_not.1 whole
      dsimp only at decrypted
      split at decrypted
      · rename_i text stripped
        cases decrypted
        have padded := Cbc.pad_of_unpad? (by rw [length_flatMap_toBytes]; omega) stripped
        rw [encryptBytes, padded, blocks_flatMap_toBytes, Cbc.encrypt_decrypt,
          flatMap_toBytes_blocks whole]
      · cases decrypted
  · rintro rfl
    have whole : (c.encryptBytes plain).length % 16 = 0 := by
      rw [encryptBytes, length_flatMap_toBytes]
      omega
    rw [decryptBytes, if_neg (Decidable.not_not.2 whole)]
    simp only [encryptBytes, blocks_flatMap_toBytes, Cbc.decrypt_encrypt,
      flatMap_toBytes_blocks (Cbc.length_pad plain), Cbc.unpad?_pad]

/-- A ciphertext holds neither blanks nor separators. -/
lemma plain_of_mem_encrypt {text : String} {x : Char} (mem : x ∈ (c.encrypt text).toList) :
    Text.isBlank x = false ∧ x ≠ '|' := by
  rw [encrypt, String.toList_ofList] at mem
  exact Base64.plain_of_mem_encode mem

/-- A ciphertext has no blanks around it. -/
lemma trim_encrypt (text : String) : Text.trim (c.encrypt text) = c.encrypt text := by
  have trimmed : Text.Trimmed (c.encrypt text).toList :=
    ⟨fun x mem => (c.plain_of_mem_encrypt (List.mem_of_head? mem)).1,
      fun x mem => (c.plain_of_mem_encrypt (List.mem_of_getLast? mem)).1⟩
  rw [Text.trim, Text.trimChars_of_trimmed trimmed, String.ofList_toList]

/-- A text decrypts to another exactly when, trimmed, it is what encrypting that one produces. -/
lemma decrypt_eq_ok_iff {ciphertext text : String} :
    c.decrypt ciphertext = .ok text ↔ Text.trim ciphertext = c.encrypt text := by
  have digits : Text.trim ciphertext = c.encrypt text ↔
      Base64.encode (c.encryptBytes (Utf8.encode text)) = Text.trimChars ciphertext.toList := by
    rw [← String.toList_inj, Text.toList_trim, encrypt, String.toList_ofList, eq_comm]
  rw [digits]
  constructor
  · intro decrypted
    unfold decrypt at decrypted
    split at decrypted
    · cases decrypted
    · rename_i bytes read
      split at decrypted
      · cases decrypted
      · rename_i plain stripped
        split at decrypted
        · cases decrypted
        · rename_i word decoded
          cases decrypted
          rw [Utf8.encode_of_decode? decoded, c.decryptBytes_eq_ok_iff.1 stripped]
          exact Base64.encode_of_decode? read
  · intro written
    have read := Base64.decode?_eq_some_iff.2 written
    have stripped := c.decryptBytes_eq_ok_iff.2 (rfl : _ = c.encryptBytes (Utf8.encode text))
    simp only [decrypt, read, stripped, Utf8.decode?_encode]

/-- Every text comes back from its encryption. -/
lemma decrypt_encrypt (text : String) : c.decrypt (c.encrypt text) = .ok text :=
  c.decrypt_eq_ok_iff.2 (c.trim_encrypt text)

end

/-- A key and an initial vector of the right lengths make a context, with which a ciphertext
decrypts to a text exactly when, trimmed, it is the encryption of this text. So every text comes
back from its encryption, and what decrypts to the same text is the same but for blanks around
it. -/
theorem decrypts_exactly {key iv : List UInt8} (keyLength : key.length ∈ keyLengths)
    (ivLength : iv.length = 16) :
    ∃ c, ofBytes key iv = .ok c ∧ c.key = key ∧ c.iv = iv ∧
      (∀ ciphertext text, c.decrypt ciphertext = .ok text ↔ Text.trim ciphertext = c.encrypt text) ∧
      (∀ text, c.decrypt (c.encrypt text) = .ok text) ∧
      ∀ x y text, c.decrypt x = .ok text → c.decrypt y = .ok text → Text.trim x = Text.trim y := by
  refine ⟨⟨key, iv, keyLength, ivLength⟩, dif_pos ⟨keyLength, ivLength⟩, rfl, rfl, ?_, ?_, ?_⟩
  · intro ciphertext text
    exact decrypt_eq_ok_iff _
  · intro text
    exact decrypt_encrypt _ text
  · intro x y text hx hy
    rw [(decrypt_eq_ok_iff _).1 hx, (decrypt_eq_ok_iff _).1 hy]

/-- A key of 24 bytes. -/
def sampleKey : List UInt8 := Utf8.encode "0123456789abcdef01234567"

/-- An initial vector. -/
def sampleVector : List UInt8 := Utf8.encode "fedcba9876543210"

/-- A ciphertext with blanks around it decrypts under the key of the sample. -/
theorem sampleKey_decrypts :
    sampleKey.length ∈ keyLengths ∧ sampleVector.length = 16 ∧
      ∃ c, ofBytes sampleKey sampleVector = .ok c ∧
        c.decrypt " BCnCit2pgbEZwXMBpyz7KQ==\n" = .ok "005930^02" := by
  have keyLength : sampleKey.length ∈ keyLengths := by decide
  have ivLength : sampleVector.length = 16 := by decide
  obtain ⟨c, made, -, -, exact, -⟩ := decrypts_exactly keyLength ivLength
  have written : (ofBytes sampleKey sampleVector).toOption.map (·.encrypt "005930^02") =
      some "BCnCit2pgbEZwXMBpyz7KQ==" := by
    decide +kernel
  rw [made] at written
  refine ⟨keyLength, ivLength, c, made, (exact _ _).2 ?_⟩
  rw [show c.encrypt "005930^02" = "BCnCit2pgbEZwXMBpyz7KQ==" from Option.some_inj.1 written]
  decide

/-- The bytes of a number, the most significant one first. -/
def bytesOf (length n : Nat) : List UInt8 :=
  (List.range length).map fun i => UInt8.ofNat (n / 256 ^ (length - 1 - i))

/-- Two blocks in a chain, encrypted under a key. -/
def chained (key : List UInt8) : List UInt8 :=
  let iv : Block := ⟨⟨0, 1, 2, 3⟩, ⟨4, 5, 6, 7⟩, ⟨8, 9, 10, 11⟩, ⟨12, 13, 14, 15⟩⟩
  let plain := bytesOf 32 0x6bc1bee22e409f96e93d7e117393172aae2d8a571e03ac9c9eb76fac45af8e51
  (Cbc.encrypt (roundKeys key) iv (blocks (columns plain))).flatMap Block.toBytes

-- what the standard gives for the shortest and for the longest keys
example : chained (bytesOf 16 0x2b7e151628aed2a6abf7158809cf4f3c) =
    bytesOf 32 0x7649abac8119b246cee98e9b12e9197d5086cb9b507219ee95db113a917678b2 := by
  decide +kernel

example : chained
    (bytesOf 32 0x603deb1015ca71be2b73aef0857d77811f352c073b6108d72d9810a30914dff4) =
    bytesOf 32 0xf58c4c04d6e5f1ba779eabfb5f7bfbd69cfc4e967edb808d679f777bc6702c7d := by
  decide +kernel

end FillFeed.Cipher.Context
