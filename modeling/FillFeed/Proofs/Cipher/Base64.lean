import Mathlib
import FillFeed.Cipher.Base64
import FillFeed.Text.Blank

/-!
# Canonical base64

A text is read as some bytes exactly when it is what writing these bytes produces
(`decode?_eq_some_iff`), so that no two texts stand for the same bytes. What is written has no
blanks in it and none of the characters that separate fields (`plain_of_mem_encode`).
-/

namespace FillFeed.Base64

/-- The value of a digit is the number that it was written for. -/
lemma value?_digit {n : Nat} (small : n < 64) : value? (digit n) = some n := by
  revert n
  decide

/-- A character with a value is the digit for this value, which is below 64. -/
lemma digit_of_value? {c : Char} {n : Nat} (read : value? c = some n) : n < 64 ∧ digit n = c := by
  have codes (x y : Char) (between : x ≤ c ∧ c ≤ y) : x.toNat ≤ c.toNat ∧ c.toNat ≤ y.toNat :=
    between
  -- the three ranges of the alphabet are told apart by code points, its last two digits one by one
  unfold value? at read
  split at read
  · have letter : 65 ≤ c.toNat ∧ c.toNat ≤ 90 := codes 'A' 'Z' ‹_›
    cases read
    refine ⟨by omega, ?_⟩
    rw [digit, if_pos (by omega), Nat.sub_add_cancel letter.1, Char.ofNat_toNat]
  split at read
  · have letter : 97 ≤ c.toNat ∧ c.toNat ≤ 122 := codes 'a' 'z' ‹_›
    cases read
    refine ⟨by omega, ?_⟩
    rw [digit, if_neg (by omega), if_pos (by omega), Nat.sub_add_cancel (by omega),
      Char.ofNat_toNat]
  split at read
  · have decimal : 48 ≤ c.toNat ∧ c.toNat ≤ 57 := codes '0' '9' ‹_›
    cases read
    refine ⟨by omega, ?_⟩
    rw [digit, if_neg (by omega), if_neg (by omega), if_pos (by omega), Nat.add_sub_cancel,
      Char.ofNat_toNat]
  split at read
  · rename_i plus
    cases read
    exact ⟨by omega, plus.symm⟩
  split at read
  · rename_i slash
    cases read
    exact ⟨by omega, slash.symm⟩
  · cases read

/-- No digit is the padding character. -/
lemma digit_ne_padding {n : Nat} (small : n < 64) : digit n ≠ '=' := by
  intro same
  have read := value?_digit small
  rw [same] at read
  cases read

/-- A number gives the byte that it is congruent to. -/
lemma ofNat_eq {x : UInt8} {n : Nat} (same : n % 256 = x.toNat) : UInt8.ofNat n = x := by
  apply UInt8.toNat_inj.1
  rw [UInt8.toNat_ofNat']
  exact same

/-- The four digits of three bytes decode to these bytes. -/
lemma decodeGroup_digits (x y z : UInt8) :
    let n := (x.toNat * 256 + y.toNat) * 256 + z.toNat
    decodeGroup (digit (n / 262144)) (digit (n / 4096 % 64)) (digit (n / 64 % 64)) (digit (n % 64)) =
      some [x, y, z] := by
  intro n
  have hx := x.toNat_lt
  have hy := y.toNat_lt
  have hz := z.toNat_lt
  rw [decodeGroup, value?_digit (by omega), value?_digit (by omega), value?_digit (by omega),
    value?_digit (by omega)]
  simp only [Option.bind_eq_bind, Option.bind_some]
  rw [ofNat_eq (x := x) (by omega), ofNat_eq (x := y) (by omega), ofNat_eq (x := z) (by omega)]

/-- The two digits of a single byte decode to this byte. -/
lemma decodePadded_one (x : UInt8) :
    decodePadded (digit (x.toNat / 4)) (digit (x.toNat % 4 * 16)) '=' = some [x] := by
  have hx := x.toNat_lt
  rw [decodePadded, value?_digit (by omega), value?_digit (by omega)]
  simp only [Option.bind_eq_bind, Option.bind_some, if_true]
  rw [if_pos (by omega), ofNat_eq (x := x) (by omega)]

/-- The three digits of two bytes decode to these bytes. -/
lemma decodePadded_two (x y : UInt8) :
    let n := x.toNat * 256 + y.toNat
    decodePadded (digit (n / 1024)) (digit (n / 16 % 64)) (digit (n % 16 * 4)) = some [x, y] := by
  intro n
  have hx := x.toNat_lt
  have hy := y.toNat_lt
  rw [decodePadded, value?_digit (by omega), value?_digit (by omega), value?_digit (by omega)]
  simp only [Option.bind_eq_bind, Option.bind_some]
  rw [if_neg (digit_ne_padding (by omega)), if_pos (by omega), ofNat_eq (x := x) (by omega),
    ofNat_eq (x := y) (by omega)]

/-- What was written is read back. -/
lemma decode?_encode (bytes : List UInt8) : decode? (encode bytes) = some bytes := by
  fun_induction encode bytes with
  | case1 => rfl
  | case2 x n =>
    rw [decode?, if_pos ⟨rfl, rfl⟩]
    exact decodePadded_one x
  | case3 x y n =>
    rw [decode?, if_pos ⟨rfl, rfl⟩]
    exact decodePadded_two x y
  | case4 x y z rest n ih =>
    have unpadded : digit (n % 64) ≠ '=' := digit_ne_padding (by omega)
    rw [decode?, if_neg (fun padded => unpadded padded.1), decodeGroup_digits, ih]
    rfl

/-- The bytes of four digits, with others behind them, are written with these digits first. -/
lemma encode_of_decodeGroup {a b c d : Char} {bytes : List UInt8}
    (read : decodeGroup a b c d = some bytes) (rest : List UInt8) :
    encode (bytes ++ rest) = a :: b :: c :: d :: encode rest := by
  simp only [decodeGroup, Option.bind_eq_bind, Option.bind_eq_some_iff] at read
  obtain ⟨p, hp, q, hq, r, hr, s, hs, e⟩ := read
  obtain ⟨smallP, rfl⟩ := digit_of_value? hp
  obtain ⟨smallQ, rfl⟩ := digit_of_value? hq
  obtain ⟨smallR, rfl⟩ := digit_of_value? hr
  obtain ⟨smallS, rfl⟩ := digit_of_value? hs
  cases e
  simp only [List.cons_append, List.nil_append, encode, UInt8.toNat_ofNat', List.cons.injEq,
    and_true]
  refine ⟨congrArg digit ?_, congrArg digit ?_, congrArg digit ?_, congrArg digit ?_⟩ <;> omega

/-- A last group with padding is what its bytes are encoded as. -/
lemma encode_of_decodePadded {a b c : Char} {bytes : List UInt8}
    (read : decodePadded a b c = some bytes) : encode bytes = [a, b, c, '='] := by
  simp only [decodePadded, Option.bind_eq_bind, Option.bind_eq_some_iff] at read
  obtain ⟨p, hp, q, hq, read⟩ := read
  obtain ⟨smallP, rfl⟩ := digit_of_value? hp
  obtain ⟨smallQ, rfl⟩ := digit_of_value? hq
  split at read
  · rename_i padding
    subst padding
    split at read
    · cases read
      simp only [encode, UInt8.toNat_ofNat', List.cons.injEq, and_true]
      refine ⟨congrArg digit ?_, congrArg digit ?_⟩ <;> omega
    · cases read
  · obtain ⟨r, hr, last⟩ := Option.bind_eq_some_iff.1 read
    obtain ⟨smallR, rfl⟩ := digit_of_value? hr
    split at last
    · cases last
      simp only [encode, UInt8.toNat_ofNat', List.cons.injEq, and_true]
      refine ⟨congrArg digit ?_, congrArg digit ?_, congrArg digit ?_⟩ <;> omega
    · cases last

/-- What is read is the written form of the bytes that it is read as. -/
lemma encode_of_decode? {cs : List Char} {bytes : List UInt8} (read : decode? cs = some bytes) :
    encode bytes = cs := by
  fun_induction decode? cs generalizing bytes with
  | case1 => cases read; rfl
  | case2 a b c d rest padded =>
    obtain ⟨rfl, rfl⟩ := padded
    exact encode_of_decodePadded read
  | case3 a b c d rest unpadded group more hm hg ih =>
    cases read
    rw [encode_of_decodeGroup hg, ih hm]
  | case4 => cases read
  | case5 => cases read

/-- A text is read as some bytes exactly when it is the written form of them. -/
theorem decode?_eq_some_iff {cs : List Char} {bytes : List UInt8} :
    decode? cs = some bytes ↔ encode bytes = cs :=
  ⟨encode_of_decode?, fun written => written ▸ decode?_encode bytes⟩

/-- What holds of the padding and of all digits holds of all that is written. -/
lemma forall_mem_encode {p : Char → Prop} (padding : p '=') (digits : ∀ n < 64, p (digit n))
    (bytes : List UInt8) : ∀ c ∈ encode bytes, p c := by
  fun_induction encode bytes with
  | case1 => simp
  | case2 x n =>
    have hx := x.toNat_lt
    simp only [List.forall_mem_cons]
    exact ⟨digits _ (by omega), digits _ (by omega), padding, padding, by simp⟩
  | case3 x y n =>
    have hx := x.toNat_lt
    have hy := y.toNat_lt
    simp only [List.forall_mem_cons]
    exact ⟨digits _ (by omega), digits _ (by omega), digits _ (by omega), padding, by simp⟩
  | case4 x y z rest n ih =>
    have hx := x.toNat_lt
    have hy := y.toNat_lt
    have hz := z.toNat_lt
    simp only [List.forall_mem_cons]
    exact ⟨digits _ (by omega), digits _ (by omega), digits _ (by omega), digits _ (by omega), ih⟩

/-- What is written has neither blanks nor the separator of fields in it. -/
lemma plain_of_mem_encode {bytes : List UInt8} {c : Char} (mem : c ∈ encode bytes) :
    Text.isBlank c = false ∧ c ≠ '|' := by
  revert c
  apply forall_mem_encode (p := fun c => Text.isBlank c = false ∧ c ≠ '|')
  · decide
  · decide

end FillFeed.Base64
