/-!
# UTF-8

`encode` and `decode?` are the standard encoding of texts as bytes; decoding accepts exactly the
encodings (`decode?_encode`, `encode_of_decode?`). `decodeLossy` reads any bytes: a maximal piece
that starts like a character and does not end as one becomes a single replacement character.
-/

namespace FillFeed.Utf8

/-- The bytes of a text. -/
def encode (s : String) : List UInt8 := s.toByteArray.data.toList

/-- The text that some bytes encode, if they encode one. -/
def decode? (bs : List UInt8) : Option String := String.fromUTF8? ⟨bs.toArray⟩

/-- A text is decoded from its bytes. -/
theorem decode?_encode (s : String) : decode? (encode s) = some s := by
  simp [decode?, encode, String.fromUTF8?, s.isValidUTF8, String.fromUTF8]

/-- Bytes that decode to a text are the bytes of this text. -/
theorem encode_of_decode? {bs : List UInt8} {s : String} (h : decode? bs = some s) :
    encode s = bs := by
  simp only [decode?, String.fromUTF8?] at h
  split at h
  · injection h with h
    simp [← h, encode, String.fromUTF8]
  · simp at h

/-- A character begun: the bits read so far, how many bytes are still due, and the range that the
next of them must lie in. -/
structure Pending where
  bits : Nat
  due : Nat
  least : Nat
  greatest : Nat

/-- What a byte between characters means. -/
inductive Lead where
  | whole (c : Char)
  | begins (p : Pending)
  | wrong

/-- The first bytes of characters: the byte alone, or the range of the byte that must follow it. -/
def lead (b : UInt8) : Lead :=
  let n := b.toNat
  if n < 0x80 then .whole (Char.ofNat n)
  else if n < 0xC2 then .wrong
  else if n < 0xE0 then .begins ⟨n - 0xC0, 1, 0x80, 0xBF⟩
  else if n = 0xE0 then .begins ⟨0, 2, 0xA0, 0xBF⟩
  else if n = 0xED then .begins ⟨0xD, 2, 0x80, 0x9F⟩
  else if n < 0xF0 then .begins ⟨n - 0xE0, 2, 0x80, 0xBF⟩
  else if n = 0xF0 then .begins ⟨0, 3, 0x90, 0xBF⟩
  else if n < 0xF4 then .begins ⟨n - 0xF0, 3, 0x80, 0xBF⟩
  else if n = 0xF4 then .begins ⟨4, 3, 0x80, 0x8F⟩
  else .wrong

/-- The character that stands for bytes that encode none. -/
def replacement : Char := Char.ofNat 0xFFFD

/-- Reads bytes after a character was begun (`some`) or between characters (`none`). -/
def decodeFrom : Option Pending → List UInt8 → List Char
  | none, [] => []
  | some _, [] => [replacement]
  | none, b :: bs => start b bs
  | some p, b :: bs =>
    if p.least ≤ b.toNat ∧ b.toNat ≤ p.greatest then
      let bits := p.bits * 64 + (b.toNat - 0x80)
      if p.due ≤ 1 then Char.ofNat bits :: decodeFrom none bs
      else decodeFrom (some ⟨bits, p.due - 1, 0x80, 0xBF⟩) bs
    else replacement :: start b bs
where
  /-- Reads bytes that begin with the first byte of a character. -/
  start (b : UInt8) (bs : List UInt8) : List Char :=
    match lead b with
    | .whole c => c :: decodeFrom none bs
    | .begins p => decodeFrom (some p) bs
    | .wrong => replacement :: decodeFrom none bs

/-- The text of any bytes, with a replacement character for each piece that encodes none. -/
def decodeLossy (bs : List UInt8) : String := String.ofList (decodeFrom none bs)

end FillFeed.Utf8
