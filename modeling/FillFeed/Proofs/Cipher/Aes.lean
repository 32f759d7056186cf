import Mathlib
import FillFeed.Cipher.Aes

/-!
# The inverse of AES

Decrypting undoes encrypting and the other way round, under any round keys (`decrypt_encrypt`,
`encrypt_decrypt`). Each transformation of a round has its inverse. Substitution is checked entry by
entry. Mixing is linear and goes along with rotation (`mix_add`, `mix_rotate`), so that columns with
a single byte are all that has to be checked (`eq_self_of_linear`). The rounds follow by induction
on the round keys.
-/

namespace FillFeed.Aes

/-- What holds of the 256 numbers that fit into a byte holds of all bytes. -/
lemma forall_byte {p : UInt8 → Prop} (all : ∀ n < 256, p (UInt8.ofNat n)) (b : UInt8) : p b := by
  have here := all b.toNat b.toNat_lt
  rwa [UInt8.ofNat_toNat] at here

/-- A function that takes the entries of a table to their places undoes looking up. -/
lemma eq_of_table {table : Array UInt8} {f : UInt8 → UInt8}
    (places : table.toList.map f = (List.range 256).map UInt8.ofNat) (b : UInt8) :
    f (table.getD b.toNat 0) = b := by
  have size : b.toNat < table.size := by
    have lengths := congrArg List.length places
    rw [List.length_map, List.length_map, List.length_range, Array.length_toList] at lengths
    rw [lengths]
    exact b.toNat_lt
  have entry := congrArg (·[b.toNat]?) places
  simpa [size, b.toNat_lt] using entry

/-- Every byte comes back from its substitution. -/
lemma unsub_sub (b : UInt8) : unsub (sub b) = b := by
  have places : substitution.toList.map unsub = (List.range 256).map UInt8.ofNat := by
    decide +kernel
  exact eq_of_table places b

/-- Every byte is the substitution of what is substituted back from it. -/
lemma sub_unsub (b : UInt8) : sub (unsub b) = b := by
  have places : inverseSubstitution.toList.map sub = (List.range 256).map UInt8.ofNat := by
    decide +kernel
  exact eq_of_table places b

/-- A summand that two sums share cancels in the sum of both. -/
lemma xor_xor_cancel_right (a b c : UInt8) : a ^^^ c ^^^ (b ^^^ c) = a ^^^ b := by
  calc a ^^^ c ^^^ (b ^^^ c) = a ^^^ b ^^^ (c ^^^ c) := by ac_rfl
    _ = a ^^^ b := by rw [UInt8.xor_self, UInt8.xor_zero]

/-- A byte is below 128 exactly when its highest bit is not set. -/
lemma lt_iff_msb (a : UInt8) : a < 0x80 ↔ a.toBitVec.msb = false := by
  rw [BitVec.msb_eq_decide, UInt8.lt_iff_toNat_lt]
  simp

/-- Doubling is linear. -/
lemma double_xor (a b : UInt8) : double (a ^^^ b) = double a ^^^ double b := by
  simp only [double, lt_iff_msb, UInt8.toBitVec_xor, BitVec.msb_xor, UInt8.shiftLeft_xor]
  -- of two bytes that reach 0x80 the sum does not, and the two corrections cancel out
  cases a.toBitVec.msb with
  | false =>
    cases b.toBitVec.msb with
    | false => simp
    | true =>
      simp only [Bool.false_bne, if_true, Bool.true_eq_false, if_false, UInt8.xor_zero]
      ac_rfl
  | true =>
    cases b.toBitVec.msb with
    | false => simp; ac_rfl
    | true => simpa using (xor_xor_cancel_right _ _ _).symm

/-- Tripling is additive. -/
lemma triple_xor (a b : UInt8) : triple (a ^^^ b) = triple a ^^^ triple b := by
  simp only [triple, double_xor]
  ac_rfl

/-- Multiplying by nine is additive. -/
lemma times9_xor (a b : UInt8) : times9 (a ^^^ b) = times9 a ^^^ times9 b := by
  simp only [times9, double_xor]
  ac_rfl

/-- Multiplying by eleven is additive. -/
lemma times11_xor (a b : UInt8) : times11 (a ^^^ b) = times11 a ^^^ times11 b := by
  simp only [times11, double_xor]
  ac_rfl

/-- Multiplying by thirteen is additive. -/
lemma times13_xor (a b : UInt8) : times13 (a ^^^ b) = times13 a ^^^ times13 b := by
  simp only [times13, double_xor]
  ac_rfl

/-- Multiplying by fourteen is additive. -/
lemma times14_xor (a b : UInt8) : times14 (a ^^^ b) = times14 a ^^^ times14 b := by
  simp only [times14, double_xor]
  ac_rfl

namespace Column

/-- Adding a column twice changes nothing. -/
lemma add_add_cancel (k l : Column) : (k.add l).add l = k := by
  simp [add]

/-- Mixing columns is additive. -/
lemma mix_add (k l : Column) : (k.add l).mix = k.mix.add l.mix := by
  simp only [mix, add, double_xor, triple_xor, mk.injEq]
  refine ⟨?_, ?_, ?_, ?_⟩ <;> ac_rfl

/-- Undoing the mixing of columns is additive. -/
lemma unmix_add (k l : Column) : (k.add l).unmix = k.unmix.add l.unmix := by
  simp only [unmix, add, times9_xor, times11_xor, times13_xor, times14_xor, mk.injEq]
  refine ⟨?_, ?_, ?_, ?_⟩ <;> ac_rfl

/-- Mixing commutes with the rotation of a column. -/
lemma mix_rotate (k : Column) : k.rotate.mix = k.mix.rotate := by
  simp only [mix, rotate, mk.injEq]
  refine ⟨?_, ?_, ?_, ?_⟩ <;> ac_rfl

/-- Undoing the mixing commutes with the rotation of a column. -/
lemma unmix_rotate (k : Column) : k.rotate.unmix = k.unmix.rotate := by
  simp only [unmix, rotate, mk.injEq]
  refine ⟨?_, ?_, ?_, ?_⟩ <;> ac_rfl

/-- A linear map that goes along with rotation leaves alone every column if it does so with those
whose first byte is the only one: their rotations add up to all columns. -/
lemma eq_self_of_linear {f : Column → Column} (linear : ∀ k l, f (k.add l) = (f k).add (f l))
    (rotates : ∀ k, f k.rotate = (f k).rotate) (single : ∀ b, f ⟨b, 0, 0, 0⟩ = ⟨b, 0, 0, 0⟩)
    (k : Column) : f k = k := by
  have sum : k = ((add ⟨k.a, 0, 0, 0⟩ (rotate (rotate (rotate ⟨k.b, 0, 0, 0⟩)))).add
      (rotate (rotate ⟨k.c, 0, 0, 0⟩))).add (rotate ⟨k.d, 0, 0, 0⟩) := by
    simp [add, rotate]
  rw [sum]
  simp only [linear, rotates, single]

/-- Every column comes back when it is mixed and the mixing is undone. -/
lemma unmix_mix (k : Column) : k.mix.unmix = k := by
  apply eq_self_of_linear (f := fun k => k.mix.unmix)
  · intro k l
    rw [mix_add, unmix_add]
  · intro k
    rw [mix_rotate, unmix_rotate]
  · apply forall_byte
    decide +kernel

/-- Every column comes back when its mixing is undone and it is mixed again. -/
lemma mix_unmix (k : Column) : k.unmix.mix = k := by
  apply eq_self_of_linear (f := fun k => k.unmix.mix)
  · intro k l
    rw [unmix_add, mix_add]
  · intro k
    rw [unmix_rotate, mix_rotate]
  · apply forall_byte
    decide +kernel

end Column

namespace Block

/-- Adding a block twice changes nothing. -/
lemma add_add_cancel (k l : Block) : (k.add l).add l = k := by
  simp [add, Column.add_add_cancel]

/-- Every block comes back when its columns are mixed and the mixing is undone. -/
lemma unmix_mix (k : Block) : k.mix.unmix = k := by
  simp [mix, unmix, Column.unmix_mix]

/-- Every block comes back when the mixing of its columns is undone and they are mixed again. -/
lemma mix_unmix (k : Block) : k.unmix.mix = k := by
  simp [mix, unmix, Column.mix_unmix]

/-- Every block comes back when its rows are shifted and shifted back. -/
lemma unshiftRows_shiftRows (k : Block) : k.shiftRows.unshiftRows = k := rfl

/-- Every block comes back when its rows are shifted back and shifted again. -/
lemma shiftRows_unshiftRows (k : Block) : k.unshiftRows.shiftRows = k := rfl

/-- Every block comes back when its bytes are substituted and substituted back. -/
lemma map_unsub_map_sub (k : Block) : (k.map sub).map unsub = k := by
  simp [map, Column.map, unsub_sub]

/-- Every block comes back when its bytes are substituted back and substituted again. -/
lemma map_sub_map_unsub (k : Block) : (k.map unsub).map sub = k := by
  simp [map, Column.map, sub_unsub]

end Block

open Block

/-- The last round is undone without any mixing. -/
lemma unrounds_singleton (k s : Block) :
    unrounds [k] s = (s.add k).unshiftRows.map unsub := rfl

/-- A round before the last one is undone after the rounds behind it. -/
lemma unrounds_cons {k : Block} {ks : List Block} {s : Block} (more : ks ≠ []) :
    unrounds (k :: ks) s = (((unrounds ks s).add k).unmix.unshiftRows).map unsub := by
  cases ks with
  | nil => exact absurd rfl more
  | cons => rfl

/-- Undoing the rounds after they were made gives the block back. -/
lemma unrounds_rounds (ks : List Block) (s : Block) : unrounds ks (rounds ks s) = s := by
  fun_induction rounds ks s with
  | case1 s => rfl
  | case2 k s =>
    rw [unrounds_singleton, add_add_cancel, unshiftRows_shiftRows, map_unsub_map_sub]
  | case3 k ks s more ih =>
    rw [unrounds_cons more, ih, add_add_cancel, unmix_mix, unshiftRows_shiftRows,
      map_unsub_map_sub]

/-- Making the rounds after they were undone gives the block back. -/
lemma rounds_unrounds (ks : List Block) (s : Block) : rounds ks (unrounds ks s) = s := by
  fun_induction unrounds ks s with
  | case1 s => rfl
  | case2 k s => rw [rounds, map_sub_map_unsub, shiftRows_unshiftRows, add_add_cancel]
  | case3 k ks s more ih =>
    rw [rounds, map_sub_map_unsub, shiftRows_unshiftRows, mix_unmix, add_add_cancel, ih]
    exact more

/-- Decrypting undoes encrypting. -/
theorem decrypt_encrypt (ks : List Block) (s : Block) : decrypt ks (encrypt ks s) = s := by
  cases ks with
  | nil => rfl
  | cons k ks => rw [encrypt, decrypt, unrounds_rounds, add_add_cancel]

/-- Encrypting undoes decrypting. -/
theorem encrypt_decrypt (ks : List Block) (s : Block) : encrypt ks (decrypt ks s) = s := by
  cases ks with
  | nil => rfl
  | cons k ks => rw [encrypt, decrypt, add_add_cancel, rounds_unrounds]

end FillFeed.Aes
