/-!
# The AES block cipher

A block is four columns of four bytes. `Aes.encrypt` runs the rounds over a list of round keys and
`Aes.decrypt` undoes them in the opposite order; `Aes.roundKeys` derives the round keys of a key
of 16, 24 or 32 bytes.
-/

namespace FillFeed.Aes

/-- Four bytes of a block. -/
structure Column where
  a : UInt8
  b : UInt8
  c : UInt8
  d : UInt8
  deriving DecidableEq

/-- Sixteen bytes, column by column. -/
structure Block where
  w : Column
  x : Column
  y : Column
  z : Column
  deriving DecidableEq

/-- The bytes of a column. -/
def Column.toBytes (k : Column) : List UInt8 := [k.a, k.b, k.c, k.d]

/-- The bytes of a block. -/
def Block.toBytes (k : Block) : List UInt8 :=
  k.w.toBytes ++ k.x.toBytes ++ k.y.toBytes ++ k.z.toBytes

/-- The columns that some bytes make up; fewer than four bytes at the end are left out. -/
def columns : List UInt8 → List Column
  | a :: b :: c :: d :: rest => ⟨a, b, c, d⟩ :: columns rest
  | _ => []

/-- The blocks that some columns make up; fewer than four columns at the end are left out. -/
def blocks : List Column → List Block
  | w :: x :: y :: z :: rest => ⟨w, x, y, z⟩ :: blocks rest
  | _ => []

/-- The substitution of bytes. -/
def substitution : Array UInt8 :=
  #[0x63, 0x7c, 0x77, 0x7b, 0xf2, 0x6b, 0x6f, 0xc5, 0x30, 0x01, 0x67, 0x2b, 0xfe, 0xd7, 0xab, 0x76,
    0xca, 0x82, 0xc9, 0x7d, 0xfa, 0x59, 0x47, 0xf0, 0xad, 0xd4, 0xa2, 0xaf, 0x9c, 0xa4, 0x72, 0xc0,
    0xb7, 0xfd, 0x93, 0x26, 0x36, 0x3f, 0xf7, 0xcc, 0x34, 0xa5, 0xe5, 0xf1, 0x71, 0xd8, 0x31, 0x15,
    0x04, 0xc7, 0x23, 0xc3, 0x18, 0x96, 0x05, 0x9a, 0x07, 0x12, 0x80, 0xe2, 0xeb, 0x27, 0xb2, 0x75,
    0x09, 0x83, 0x2c, 0x1a, 0x1b, 0x6e, 0x5a, 0xa0, 0x52, 0x3b, 0xd6, 0xb3, 0x29, 0xe3, 0x2f, 0x84,
    0x53, 0xd1, 0x00, 0xed, 0x20, 0xfc, 0xb1, 0x5b, 0x6a, 0xcb, 0xbe, 0x39, 0x4a, 0x4c, 0x58, 0xcf,
    0xd0, 0xef, 0xaa, 0xfb, 0x43, 0x4d, 0x33, 0x85, 0x45, 0xf9, 0x02, 0x7f, 0x50, 0x3c, 0x9f, 0xa8,
    0x51, 0xa3, 0x40, 0x8f, 0x92, 0x9d, 0x38, 0xf5, 0xbc, 0xb6, 0xda, 0x21, 0x10, 0xff, 0xf3, 0xd2,
    0xcd, 0x0c, 0x13, 0xec, 0x5f, 0x97, 0x44, 0x17, 0xc4, 0xa7, 0x7e, 0x3d, 0x64, 0x5d, 0x19, 0x73,
    0x60, 0x81, 0x4f, 0xdc, 0x22, 0x2a, 0x90, 0x88, 0x46, 0xee, 0xb8, 0x14, 0xde, 0x5e, 0x0b, 0xdb,
    0xe0, 0x32, 0x3a, 0x0a, 0x49, 0x06, 0x24, 0x5c, 0xc2, 0xd3, 0xac, 0x62, 0x91, 0x95, 0xe4, 0x79,
    0xe7, 0xc8, 0x37, 0x6d, 0x8d, 0xd5, 0x4e, 0xa9, 0x6c, 0x56, 0xf4, 0xea, 0x65, 0x7a, 0xae, 0x08,
    0xba, 0x78, 0x25, 0x2e, 0x1c, 0xa6, 0xb4, 0xc6, 0xe8, 0xdd, 0x74, 0x1f, 0x4b, 0xbd, 0x8b, 0x8a,
    0x70, 0x3e, 0xb5, 0x66, 0x48, 0x03, 0xf6, 0x0e, 0x61, 0x35, 0x57, 0xb9, 0x86, 0xc1, 0x1d, 0x9e,
    0xe1, 0xf8, 0x98, 0x11, 0x69, 0xd9, 0x8e, 0x94, 0x9b, 0x1e, 0x87, 0xe9, 0xce, 0x55, 0x28, 0xdf,
    0x8c, 0xa1, 0x89, 0x0d, 0xbf, 0xe6, 0x42, 0x68, 0x41, 0x99, 0x2d, 0x0f, 0xb0, 0x54, 0xbb, 0x16]

/-- The inverse of the substitution of bytes. -/
def inverseSubstitution : Array UInt8 :=
  #[0x52, 0x09, 0x6a, 0xd5, 0x30, 0x36, 0xa5, 0x38, 0xbf, 0x40, 0xa3, 0x9e, 0x81, 0xf3, 0xd7, 0xfb,
    0x7c, 0xe3, 0x39, 0x82, 0x9b, 0x2f, 0xff, 0x87, 0x34, 0x8e, 0x43, 0x44, 0xc4, 0xde, 0xe9, 0xcb,
    0x54, 0x7b, 0x94, 0x32, 0xa6, 0xc2, 0x23, 0x3d, 0xee, 0x4c, 0x95, 0x0b, 0x42, 0xfa, 0xc3, 0x4e,
    0x08, 0x2e, 0xa1, 0x66, 0x28, 0xd9, 0x24, 0xb2, 0x76, 0x5b, 0xa2, 0x49, 0x6d, 0x8b, 0xd1, 0x25,
    0x72, 0xf8, 0xf6, 0x64, 0x86, 0x68, 0x98, 0x16, 0xd4, 0xa4, 0x5c, 0xcc, 0x5d, 0x65, 0xb6, 0x92,
    0x6c, 0x70, 0x48, 0x50, 0xfd, 0xed, 0xb9, 0xda, 0x5e, 0x15, 0x46, 0x57, 0xa7, 0x8d, 0x9d, 0x84,
    0x90, 0xd8, 0xab, 0x00, 0x8c, 0xbc, 0xd3, 0x0a, 0xf7, 0xe4, 0x58, 0x05, 0xb8, 0xb3, 0x45, 0x06,
    0xd0, 0x2c, 0x1e, 0x8f, 0xca, 0x3f, 0x0f, 0x02, 0xc1, 0xaf, 0xbd, 0x03, 0x01, 0x13, 0x8a, 0x6b,
    0x3a, 0x91, 0x11, 0x41, 0x4f, 0x67, 0xdc, 0xea, 0x97, 0xf2, 0xcf, 0xce, 0xf0, 0xb4, 0xe6, 0x73,
    0x96, 0xac, 0x74, 0x22, 0xe7, 0xad, 0x35, 0x85, 0xe2, 0xf9, 0x37, 0xe8, 0x1c, 0x75, 0xdf, 0x6e,
    0x47, 0xf1, 0x1a, 0x71, 0x1d, 0x29, 0xc5, 0x89, 0x6f, 0xb7, 0x62, 0x0e, 0xaa, 0x18, 0xbe, 0x1b,
    0xfc, 0x56, 0x3e, 0x4b, 0xc6, 0xd2, 0x79, 0x20, 0x9a, 0xdb, 0xc0, 0xfe, 0x78, 0xcd, 0x5a, 0xf4,
    0x1f, 0xdd, 0xa8, 0x33, 0x88, 0x07, 0xc7, 0x31, 0xb1, 0x12, 0x10, 0x59, 0x27, 0x80, 0xec, 0x5f,
    0x60, 0x51, 0x7f, 0xa9, 0x19, 0xb5, 0x4a, 0x0d, 0x2d, 0xe5, 0x7a, 0x9f, 0x93, 0xc9, 0x9c, 0xef,
    0xa0, 0xe0, 0x3b, 0x4d, 0xae, 0x2a, 0xf5, 0xb0, 0xc8, 0xeb, 0xbb, 0x3c, 0x83, 0x53, 0x99, 0x61,
    0x17, 0x2b, 0x04, 0x7e, 0xba, 0x77, 0xd6, 0x26, 0xe1, 0x69, 0x14, 0x63, 0x55, 0x21, 0x0c, 0x7d]

/-- A byte substituted. -/
def sub (b : UInt8) : UInt8 := substitution.getD b.toNat 0

/-- A byte substituted back. -/
def unsub (b : UInt8) : UInt8 := inverseSubstitution.getD b.toNat 0

/-- The sum of two columns. -/
def Column.add (k l : Column) : Column := ⟨k.a ^^^ l.a, k.b ^^^ l.b, k.c ^^^ l.c, k.d ^^^ l.d⟩

/-- The sum of two blocks. -/
def Block.add (k l : Block) : Block := ⟨k.w.add l.w, k.x.add l.x, k.y.add l.y, k.z.add l.z⟩

/-- A function applied to each byte of a column. -/
def Column.map (f : UInt8 → UInt8) (k : Column) : Column := ⟨f k.a, f k.b, f k.c, f k.d⟩

/-- A function applied to each byte of a block. -/
def Block.map (f : UInt8 → UInt8) (k : Block) : Block :=
  ⟨k.w.map f, k.x.map f, k.y.map f, k.z.map f⟩

/-- Rows moved to the left, the second by one column, the third by two and the fourth by three. -/
def Block.shiftRows (k : Block) : Block :=
  ⟨⟨k.w.a, k.x.b, k.y.c, k.z.d⟩, ⟨k.x.a, k.y.b, k.z.c, k.w.d⟩,
   ⟨k.y.a, k.z.b, k.w.c, k.x.d⟩, ⟨k.z.a, k.w.b, k.x.c, k.y.d⟩⟩

/-- Rows moved back to the right. -/
def Block.unshiftRows (k : Block) : Block :=
  ⟨⟨k.w.a, k.z.b, k.y.c, k.x.d⟩, ⟨k.x.a, k.w.b, k.z.c, k.y.d⟩,
   ⟨k.y.a, k.x.b, k.w.c, k.z.d⟩, ⟨k.z.a, k.y.b, k.x.c, k.w.d⟩⟩

/-- Twice a byte in the field of 256 elements. -/
def double (b : UInt8) : UInt8 := (b <<< 1) ^^^ (if b < 0x80 then 0 else 0x1b)

/-- Three times a byte. -/
def triple (b : UInt8) : UInt8 := double b ^^^ b

/-- Nine times a byte. -/
def times9 (b : UInt8) : UInt8 := double (double (double b)) ^^^ b

/-- Eleven times a byte. -/
def times11 (b : UInt8) : UInt8 := double (double (double b)) ^^^ double b ^^^ b

/-- Thirteen times a byte. -/
def times13 (b : UInt8) : UInt8 := double (double (double b)) ^^^ double (double b) ^^^ b

/-- Fourteen times a byte. -/
def times14 (b : UInt8) : UInt8 := double (double (double b)) ^^^ double (double b) ^^^ double b

/-- A column mixed. -/
def Column.mix (k : Column) : Column :=
  ⟨double k.a ^^^ triple k.b ^^^ k.c ^^^ k.d, k.a ^^^ double k.b ^^^ triple k.c ^^^ k.d,
   k.a ^^^ k.b ^^^ double k.c ^^^ triple k.d, triple k.a ^^^ k.b ^^^ k.c ^^^ double k.d⟩

/-- A column unmixed. -/
def Column.unmix (k : Column) : Column :=
  ⟨times14 k.a ^^^ times11 k.b ^^^ times13 k.c ^^^ times9 k.d,
   times9 k.a ^^^ times14 k.b ^^^ times11 k.c ^^^ times13 k.d,
   times13 k.a ^^^ times9 k.b ^^^ times14 k.c ^^^ times11 k.d,
   times11 k.a ^^^ times13 k.b ^^^ times9 k.c ^^^ times14 k.d⟩

/-- Each column mixed. -/
def Block.mix (k : Block) : Block := ⟨k.w.mix, k.x.mix, k.y.mix, k.z.mix⟩

/-- Each column unmixed. -/
def Block.unmix (k : Block) : Block := ⟨k.w.unmix, k.x.unmix, k.y.unmix, k.z.unmix⟩

/-- The rounds after the first round key; the last one does not mix. -/
def rounds : List Block → Block → Block
  | [], s => s
  | [k], s => ((s.map sub).shiftRows).add k
  | k :: ks, s => rounds ks ((((s.map sub).shiftRows).mix).add k)

/-- The rounds undone, the last one first. -/
def unrounds : List Block → Block → Block
  | [], s => s
  | [k], s => (s.add k).unshiftRows.map unsub
  | k :: ks, s => (((unrounds ks s).add k).unmix.unshiftRows).map unsub

/-- A block encrypted under the given round keys. -/
def encrypt : List Block → Block → Block
  | [], s => s
  | k :: ks, s => rounds ks (s.add k)

/-- A block decrypted under the given round keys. -/
def decrypt : List Block → Block → Block
  | [], s => s
  | k :: ks, s => (unrounds ks s).add k

/-- A column with its bytes moved up by one. -/
def Column.rotate (k : Column) : Column := ⟨k.b, k.c, k.d, k.a⟩

/-- The constant of the `n`-th round of the key schedule. -/
def roundConstant : Nat → UInt8
  | 0 => 0x8d
  | n + 1 => double (roundConstant n)

/-- What the last column contributes to the `i`-th one, in a key of `width` columns. -/
def stir (width i : Nat) (last : Column) : Column :=
  if i % width = 0 then (last.rotate.map sub).add ⟨roundConstant (i / width), 0, 0, 0⟩
  else if 6 < width ∧ i % width = 4 then last.map sub
  else last

/-- The columns of the key schedule, the latest first, continued by `steps` more from the `i`-th. -/
def extend (width : Nat) : (steps i : Nat) → List Column → List Column
  | 0, _, done => done
  | steps + 1, i, done =>
    match done, done[width - 1]? with
    | last :: _, some back => extend width steps (i + 1) ((back.add (stir width i last)) :: done)
    | _, _ => done

/-- The round keys of a key: one more than there are rounds, which are six more than the key has
columns. -/
def roundKeys (key : List UInt8) : List Block :=
  let initial := columns key
  let width := initial.length
  blocks (extend width (4 * (width + 7) - width) width initial.reverse).reverse

end FillFeed.Aes
