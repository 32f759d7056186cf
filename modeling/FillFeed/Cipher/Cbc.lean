import FillFeed.Cipher.Aes

/-!
# Chained blocks and padding

Cipher-block chaining over AES blocks, and the padding that fills the last block: as many bytes as
are missing, each of them holding that number, and a whole block when none is missing.
-/

namespace FillFeed.Cbc

open Aes

/-- The blocks of a chain encrypted: each is added to the encrypted one before it. -/
def encrypt (keys : List Block) (iv : Block) : List Block → List Block
  | [] => []
  | p :: ps => let c := Aes.encrypt keys (p.add iv); c :: encrypt keys c ps

/-- The blocks of a chain decrypted. -/
def decrypt (keys : List Block) (iv : Block) : List Block → List Block
  | [] => []
  | c :: cs => (Aes.decrypt keys c).add iv :: decrypt keys c cs

/-- Bytes filled up to whole blocks. -/
def pad (bytes : List UInt8) : List UInt8 :=
  let missing := 16 - bytes.length % 16
  bytes ++ List.replicate missing (UInt8.ofNat missing)

/-- The bytes before the padding; none when the end is no padding. -/
def unpad? (bytes : List UInt8) : Option (List UInt8) :=
  match bytes.getLast? with
  | none => none
  | some last =>
    let n := last.toNat
    if 1 ≤ n ∧ n ≤ 16 ∧ (bytes.drop (bytes.length - n)).all (· == last) then
      some (bytes.take (bytes.length - n))
    else none

end FillFeed.Cbc
