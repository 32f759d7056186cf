import FillFeed.Address.Url

/-!
# Addresses of cache servers

`Cache.Address.read?` reads the address of a cache server that listens at a path of this machine:
the path, and in a query the number of a database, a user with a password, and the version of the
protocol.
-/

namespace FillFeed.Cache

/-- The address of a cache server on this machine. -/
structure Address where
  path : List UInt8
  database : Int
  user : Option String
  password : Option String
  version : Nat
  deriving DecidableEq

namespace Address

/-- A part of a query as a text: a plus sign stands for a blank. -/
def formText (cs : List Char) : String :=
  Utf8.decodeLossy (Percent.decode (cs.map fun c => if c = '+' then ' ' else c))

/-- The names and values in a query. -/
def formPairs (query : List Char) : List (String × String) :=
  ((Text.splitChars '&' query).filter (· ≠ [])).map fun pair =>
    let name := pair.takeWhile (· ≠ '=')
    (formText name, formText (pair.drop (name.length + 1)))

/-- The whole number of 64 bits that a text denotes. -/
def whole? (s : String) : Option Int :=
  match s.toList with
  | '-' :: c :: cs =>
    if Text.isDigit c then
      (Text.unsigned? (twoPow 63 + 1) (String.ofList (c :: cs))).map fun n => -(n : Int)
    else none
  | _ => (Text.unsigned? (twoPow 63) s).map Int.ofNat

/-- The version of the protocol that a name stands for. -/
def version? (name : String) : Option Nat :=
  if name = "2" ∨ name = "resp2" then some 2
  else if name = "3" ∨ name = "resp3" then some 3
  else none

/-- The address that a text denotes. -/
def read? (s : String) : Option Address := do
  let u ← Url.read? s
  if ["unix", "redis+unix", "valkey+unix"].contains u.scheme ∧ u.isLocal ∧
      u.path.head? = some '/' then
    let pairs := (formPairs (u.query.getD [])).reverse
    let database ← match pairs.lookup "db" with
      | some db => whole? db
      | none => some 0
    let version ← match pairs.lookup "protocol" with
      | some name => version? name
      | none => some 2
    some ⟨Percent.decode u.path, database, pairs.lookup "user", pairs.lookup "pass", version⟩
  else none

end Address

end FillFeed.Cache
