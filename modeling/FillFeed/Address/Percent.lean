import FillFeed.Text.Utf8

/-!
# Percent encoding

In an address a character that could be mistaken for something else is written as its bytes, each
after a percent sign. Which characters those are depends on the part of the address; `encode` writes
and `decode` reads.
-/

namespace FillFeed.Percent

/-- A hexadecimal digit in upper case. -/
def upperDigit (n : Nat) : Char := if n < 10 then Char.ofNat (48 + n) else Char.ofNat (55 + n)

/-- The value of a hexadecimal digit. -/
def digit? (c : Char) : Option Nat :=
  if '0' ≤ c ∧ c ≤ '9' then some (c.toNat - 48)
  else if 'a' ≤ c ∧ c ≤ 'f' then some (c.toNat - 87)
  else if 'A' ≤ c ∧ c ≤ 'F' then some (c.toNat - 55)
  else none

/-- A byte after a percent sign. -/
def byte (b : UInt8) : List Char := ['%', upperDigit (b.toNat / 16), upperDigit (b.toNat % 16)]

/-- Whether a character is no printable one of ASCII. -/
def inControls (c : Char) : Bool := c.toNat < 0x20 || 0x7E < c.toNat

/-- The characters that are encoded in a fragment. -/
def inFragment (c : Char) : Bool := inControls c || " \"<>\x60".toList.contains c

/-- The characters that are encoded in a path. -/
def inPath (c : Char) : Bool := inFragment c || "#?\x7b\x7d".toList.contains c

/-- The characters that are encoded in the name or the password of a user. -/
def inUser (c : Char) : Bool := inPath c || "/:;=@[\\]^|".toList.contains c

/-- The characters that are encoded in a query; in an address of one of the well-known schemes the
apostrophe is one of them. -/
def inQuery (isSpecial : Bool) (c : Char) : Bool :=
  inControls c || " \"#<>".toList.contains c || (isSpecial && c = '\'')

/-- A text with some of its characters encoded. -/
def encode (encoded : Char → Bool) (cs : List Char) : List Char :=
  cs.flatMap fun c => if encoded c then (Utf8.encode (String.singleton c)).flatMap byte else [c]

/-- The bytes of a text, with encoded ones decoded. A percent sign without two digits stands for
itself. -/
def decode : List Char → List UInt8
  | [] => []
  | '%' :: a :: b :: cs =>
    match digit? a, digit? b with
    | some m, some n => UInt8.ofNat (16 * m + n) :: decode cs
    | _, _ => '%'.toNat.toUInt8 :: decode (a :: b :: cs)
  | c :: cs => Utf8.encode (String.singleton c) ++ decode cs

/-- Nothing is encoded where nothing has to be. -/
theorem encode_of_forall {encoded : Char → Bool} {cs : List Char}
    (h : ∀ c ∈ cs, encoded c = false) : encode encoded cs = cs := by
  induction cs with
  | nil => rfl
  | cons c cs ih =>
    have ih := ih fun c hc => h c (List.mem_cons_of_mem _ hc)
    simp only [encode] at ih ⊢
    simp [h c List.mem_cons_self, ih]

/-- The value of a digit that was written is read back. -/
theorem digit?_upperDigit : ∀ n < 16, digit? (upperDigit n) = some n := by decide

/-- A byte that was written is read back. -/
theorem decode_byte_append (b : UInt8) (cs : List Char) :
    decode (byte b ++ cs) = b :: decode cs := by
  have hb : b.toNat < 256 := b.toNat_lt
  simp only [byte, List.cons_append, List.nil_append]
  rw [decode, digit?_upperDigit _ (by omega), digit?_upperDigit _ (by omega)]
  have : 16 * (b.toNat / 16) + b.toNat % 16 = b.toNat := by omega
  simp [this]

/-- Bytes that were written are read back. -/
theorem decode_flatMap_byte_append (bs : List UInt8) (cs : List Char) :
    decode (bs.flatMap byte ++ cs) = bs ++ decode cs := by
  induction bs with
  | nil => rfl
  | cons b bs ih => rw [List.flatMap_cons, List.append_assoc, decode_byte_append, ih]; rfl

/-- Where the percent sign is encoded as well, the bytes of a text are read back. -/
theorem decode_encode {encoded : Char → Bool} (h : encoded '%' = true) (cs : List Char) :
    decode (encode encoded cs) = cs.flatMap fun c => Utf8.encode (String.singleton c) := by
  induction cs with
  | nil => rfl
  | cons c cs ih =>
    rw [encode, List.flatMap_cons, List.flatMap_cons, ← encode, ← ih]
    split
    · rw [decode_flatMap_byte_append]
    · rename_i hc
      have : c ≠ '%' := by
        rintro rfl
        exact hc h
      rw [List.cons_append, decode, List.nil_append]
      exact fun _ _ _ hp => absurd hp this

end FillFeed.Percent
