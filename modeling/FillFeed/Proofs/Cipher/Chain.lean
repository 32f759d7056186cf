import Mathlib
import FillFeed.Cipher.Cbc
import FillFeed.Proofs.Cipher.Aes

/-!
# Chains and padding

Bytes that fill whole blocks are the same as these blocks (`blocks_flatMap_toBytes`,
`flatMap_toBytes_blocks`), decrypting a chain undoes encrypting it and the other way round, and on
whole blocks the padding is taken off exactly where it was put on (`unpad?_pad`, `pad_of_unpad?`).
-/

namespace FillFeed

namespace Aes

/-- Blocks are read back from their bytes. -/
lemma blocks_flatMap_toBytes (ks : List Block) :
    blocks (columns (ks.flatMap Block.toBytes)) = ks := by
  induction ks with
  | nil => rfl
  | cons k ks ih =>
    have first (rest : List UInt8) :
        blocks (columns (k.toBytes ++ rest)) = k :: blocks (columns rest) := rfl
    rw [List.flatMap_cons, first, ih]

/-- Each block has sixteen bytes. -/
lemma length_flatMap_toBytes (ks : List Block) :
    (ks.flatMap Block.toBytes).length = 16 * ks.length := by
  induction ks with
  | nil => rfl
  | cons k ks ih =>
    have sixteen : k.toBytes.length = 16 := rfl
    rw [List.flatMap_cons, List.length_append, ih, sixteen, List.length_cons]
    omega

/-- Bytes that fill whole columns are those of their columns. -/
lemma flatMap_toBytes_columns {n : Nat} {bytes : List UInt8} (whole : bytes.length = 4 * n) :
    (columns bytes).length = n ∧ (columns bytes).flatMap Column.toBytes = bytes := by
  induction n generalizing bytes with
  | zero =>
    cases List.length_eq_zero_iff.1 whole
    exact ⟨rfl, rfl⟩
  | succ n ih =>
    match bytes, whole with
    | a :: b :: c :: d :: rest, whole =>
      have quarters : rest.length = 4 * n := by
        simp only [List.length_cons] at whole
        omega
      obtain ⟨length, same⟩ := ih quarters
      refine ⟨congrArg Nat.succ length, ?_⟩
      rw [columns, List.flatMap_cons, same]
      rfl

/-- Columns that fill whole blocks have the bytes of their blocks. -/
lemma flatMap_toBytes_of_columns {n : Nat} {ks : List Column} (whole : ks.length = 4 * n) :
    (blocks ks).flatMap Block.toBytes = ks.flatMap Column.toBytes := by
  induction n generalizing ks with
  | zero =>
    cases List.length_eq_zero_iff.1 whole
    rfl
  | succ n ih =>
    match ks, whole with
    | w :: x :: y :: z :: rest, whole =>
      simp only [List.length_cons] at whole
      rw [blocks, List.flatMap_cons, ih (by omega)]
      simp [Block.toBytes]

/-- Bytes that fill whole blocks are those of their blocks. -/
lemma flatMap_toBytes_blocks {bytes : List UInt8} (whole : bytes.length % 16 = 0) :
    (blocks (columns bytes)).flatMap Block.toBytes = bytes := by
  have quarters : bytes.length = 4 * (4 * (bytes.length / 16)) := by omega
  obtain ⟨length, same⟩ := flatMap_toBytes_columns quarters
  rw [flatMap_toBytes_of_columns length, same]

end Aes

namespace Cbc

open Aes

/-- A chain of blocks comes back from its encryption. -/
lemma decrypt_encrypt (keys : List Block) (iv : Block) (ps : List Block) :
    decrypt keys iv (encrypt keys iv ps) = ps := by
  induction ps generalizing iv with
  | nil => rfl
  | cons p ps ih => rw [encrypt, decrypt, Aes.decrypt_encrypt, Block.add_add_cancel, ih]

/-- A chain of blocks is the encryption of what it decrypts to. -/
lemma encrypt_decrypt (keys : List Block) (iv : Block) (cs : List Block) :
    encrypt keys iv (decrypt keys iv cs) = cs := by
  induction cs generalizing iv with
  | nil => rfl
  | cons c cs ih =>
    rw [decrypt, encrypt, Block.add_add_cancel, Aes.encrypt_decrypt]
    exact congrArg (c :: ·) (ih c)

/-- Padded bytes fill whole blocks. -/
lemma length_pad (bytes : List UInt8) : (pad bytes).length % 16 = 0 := by
  rw [pad, List.length_append, List.length_replicate]
  omega

/-- The padding that was put on is taken off. -/
lemma unpad?_pad (bytes : List UInt8) : unpad? (pad bytes) = some bytes := by
  have bounds : 1 ≤ 16 - bytes.length % 16 ∧ 16 - bytes.length % 16 ≤ 16 := by omega
  rw [pad]
  generalize 16 - bytes.length % 16 = missing at bounds
  have count : (UInt8.ofNat missing).toNat = missing := by
    rw [UInt8.toNat_ofNat']
    omega
  have last : (bytes ++ List.replicate missing (UInt8.ofNat missing)).getLast? =
      some (UInt8.ofNat missing) := by
    rw [List.getLast?_append, List.getLast?_replicate, if_neg (by omega)]
    rfl
  simp [unpad?, last, count, bounds]

/-- Where a padding is taken off whole blocks, it had been put on. -/
lemma pad_of_unpad? {bytes plain : List UInt8} (whole : bytes.length % 16 = 0)
    (stripped : unpad? bytes = some plain) : pad plain = bytes := by
  unfold unpad? at stripped
  split at stripped
  · cases stripped
  · rename_i last ends
    dsimp only at stripped
    split at stripped
    · rename_i padded
      obtain ⟨least, most, same⟩ := padded
      cases stripped
      have filled : bytes ≠ [] := by
        rintro rfl
        cases ends
      have long : 16 ≤ bytes.length := by
        have := List.length_pos_iff.2 filled
        omega
      have padding : bytes.drop (bytes.length - last.toNat) = List.replicate last.toNat last := by
        apply List.eq_replicate_iff.2
        refine ⟨by rw [List.length_drop]; omega, ?_⟩
        intro b mem
        exact eq_of_beq (List.all_eq_true.1 same b mem)
      have missing : 16 - (bytes.length - last.toNat) % 16 = last.toNat := by omega
      rw [pad, List.length_take_of_le (Nat.sub_le _ _), missing, UInt8.ofNat_toNat, ← padding,
        List.take_append_drop]
    · cases stripped

end Cbc

end FillFeed
