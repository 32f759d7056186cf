/-!
# Base64

The standard alphabet with padding. `Base64.decode?` accepts the canonical form only: groups of
four digits, padding at the end of the last group alone, and no bits set that the padding leaves
unused.
-/

namespace FillFeed.Base64

/-- The digit for six bits. -/
def digit (n : Nat) : Char :=
  if n < 26 then Char.ofNat (n + 65)
  else if n < 52 then Char.ofNat (n + 71)
  else if n < 62 then Char.ofNat (n - 4)
  else if n = 62 then '+'
  else '/'

/-- The six bits of a digit. -/
def value? (c : Char) : Option Nat :=
  if 'A' ≤ c ∧ c ≤ 'Z' then some (c.toNat - 65)
  else if 'a' ≤ c ∧ c ≤ 'z' then some (c.toNat - 71)
  else if '0' ≤ c ∧ c ≤ '9' then some (c.toNat + 4)
  else if c = '+' then some 62
  else if c = '/' then some 63
  else none

/-- The base64 form of some bytes. -/
def encode : List UInt8 → List Char
  | [] => []
  | [x] =>
    let n := x.toNat
    [digit (n / 4), digit (n % 4 * 16), '=', '=']
  | [x, y] =>
    let n := x.toNat * 256 + y.toNat
    [digit (n / 1024), digit (n / 16 % 64), digit (n % 16 * 4), '=']
  | x :: y :: z :: rest =>
    let n := (x.toNat * 256 + y.toNat) * 256 + z.toNat
    digit (n / 262144) :: digit (n / 4096 % 64) :: digit (n / 64 % 64) :: digit (n % 64) ::
      encode rest

/-- The bytes of a last group with padding. -/
def decodePadded (a b c : Char) : Option (List UInt8) := do
  let a ← value? a
  let b ← value? b
  if c = '=' then
    if b % 16 = 0 then some [UInt8.ofNat (a * 4 + b / 16)] else none
  else
    let c ← value? c
    let n := (a * 64 + b) * 64 + c
    if c % 4 = 0 then some [UInt8.ofNat (n / 1024), UInt8.ofNat (n / 4 % 256)] else none

/-- The bytes of a group without padding. -/
def decodeGroup (a b c d : Char) : Option (List UInt8) := do
  let n := ((← value? a) * 64 + (← value? b)) * 4096 + (← value? c) * 64 + (← value? d)
  some [UInt8.ofNat (n / 65536), UInt8.ofNat (n / 256 % 256), UInt8.ofNat (n % 256)]

/-- The bytes that a base64 text stands for. -/
def decode? : List Char → Option (List UInt8)
  | [] => some []
  | a :: b :: c :: d :: rest =>
    if d = '=' ∧ rest = [] then decodePadded a b c
    else
      match decodeGroup a b c d, decode? rest with
      | some bytes, some more => some (bytes ++ more)
      | _, _ => none
  | _ => none

end FillFeed.Base64
