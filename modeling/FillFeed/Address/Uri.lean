import FillFeed.Numeric.Power
import FillFeed.Text.Digits
import FillFeed.Text.Fields

/-!
# Addresses

`Uri.read` reads a network address: a scheme, an authority and a path; an authority alone; or a path
alone. An authority may hold a user's name, a host, which can be a bracketed one, and a port.
-/

namespace FillFeed

/-- Why a text is no address. -/
inductive UriError where
  | empty
  | tooLong
  | schemeTooLong
  | badCharacter
  | badAuthority
  | badFormat
  deriving DecidableEq

/-- The wording of an error. -/
def UriError.message : UriError → String
  | .empty => "empty string"
  | .tooLong => "uri too long"
  | .schemeTooLong => "scheme too long"
  | .badCharacter => "invalid uri character"
  | .badAuthority => "invalid authority"
  | .badFormat => "invalid format"

/-- A network address. An empty authority or path is one that is not there. -/
structure Uri where
  scheme : Option String
  authority : List Char
  path : List Char
  deriving DecidableEq

namespace Uri

/-- The characters of a scheme. -/
def inScheme (c : Char) : Bool := c.isAlphanum || c = '+' || c = '-' || c = '.'

/-- The characters after which an authority ends. -/
def endsAuthority (c : Char) : Bool := c = '/' || c = '?' || c = '#'

/-- The characters of an authority that mean nothing in particular. -/
def inAuthority (c : Char) : Bool := c.isAlphanum || "!$&'()*+,-.;=_~".toList.contains c

/-- The characters of a path. -/
def inPath (c : Char) : Bool :=
  0x21 ≤ c.toNat && c.toNat ≠ 0x7F && !"#<>?\x60".toList.contains c

/-- The characters of a query. -/
def inQuery (c : Char) : Bool :=
  0x21 ≤ c.toNat && c.toNat ≠ 0x7F && !"\"#<>".toList.contains c

/-- What was seen of an authority: the colons and whether there was a percent sign since the last
user's name or bracketed host, and which brackets there were. -/
structure Scan where
  colons : Nat
  percent : Bool
  isOpened : Bool
  isClosed : Bool

namespace Scan

/-- Nothing seen yet. -/
def start : Scan := ⟨0, false, false, false⟩

/-- One more character of an authority. -/
def next (s : Scan) (c : Char) : Except UriError Scan :=
  if c = ':' then
    if 8 ≤ s.colons then .error .badAuthority else .ok { s with colons := s.colons + 1 }
  else if c = '[' then
    if s.percent || s.isOpened then .error .badAuthority else .ok { s with isOpened := true }
  else if c = ']' then
    if !s.isOpened || s.isClosed then .error .badAuthority else .ok ⟨0, false, true, true⟩
  else if c = '@' then .ok { s with colons := 0, percent := false }
  else if c = '%' then .ok { s with percent := true }
  else if inAuthority c then .ok s
  else .error .badCharacter

end Scan

/-- Checks an authority: at most one port, brackets in pairs, percent signs only in the user's name
or in a bracketed host, and something after the user's name. -/
def checkAuthority (cs : List Char) : Except UriError Unit := do
  let s ← cs.foldlM Scan.next Scan.start
  if s.isOpened ≠ s.isClosed ∨ 1 < s.colons ∨ cs.getLast? = some '@' ∨ s.percent then
    .error .badAuthority
  else .ok ()

/-- The authority at the start of a text, and what follows it. -/
def readAuthority (cs : List Char) : Except UriError (List Char × List Char) := do
  let authority := cs.takeWhile (!endsAuthority ·)
  checkAuthority authority
  .ok (authority, cs.drop authority.length)

/-- A path with its query, without the fragment after it. -/
def readPath (cs : List Char) : Except UriError (List Char) :=
  let whole := cs.takeWhile (· ≠ '#')
  let path := whole.takeWhile (· ≠ '?')
  let query := (whole.drop path.length).drop 1
  if path.all inPath && query.all inQuery then .ok whole else .error .badCharacter

/-- The scheme at the start of a text, in lower case if it is one of the well-known two, and what
follows it. An empty scheme needs something after it. -/
def readScheme (cs : List Char) : Except UriError (Option String × List Char) :=
  let scheme := cs.takeWhile inScheme
  match cs.drop scheme.length with
  | ':' :: '/' :: '/' :: rest =>
    if scheme = [] ∧ rest = [] then .ok (none, cs) else
    let lower := String.ofList (scheme.map Text.asciiLower)
    if lower = "http" ∨ lower = "https" then .ok (some lower, rest)
    else if 64 < scheme.length then .error .schemeTooLong
    else .ok (some (String.ofList scheme), rest)
  | _ => .ok (none, cs)

/-- An address with a scheme, or an authority alone. -/
def readFull (cs : List Char) : Except UriError Uri := do
  let (scheme, rest) ← readScheme cs
  let (authority, rest) ← readAuthority rest
  match scheme with
  | none => if rest = [] then .ok ⟨none, authority, []⟩ else .error .badFormat
  | some scheme =>
    if authority = [] then .error (if rest = [] then .empty else .badFormat)
    else
      let path ← readPath rest
      .ok ⟨some scheme, authority, path⟩

/-- The most bytes that an address may have. -/
def longest : Nat := 65534

/-- The address that a text denotes. -/
def read (s : String) : Except UriError Uri :=
  if longest < s.utf8ByteSize then .error .tooLong
  else match s.toList with
    | [] => .error .empty
    | ['*'] => .ok ⟨none, [], ['*']⟩
    | ['?'] | ['#'] => .error .badCharacter
    | '/' :: rest => (readPath ('/' :: rest)).map fun path => ⟨none, [], path⟩
    | cs => readFull cs

/-- The part of the authority after the user's name. -/
def location (u : Uri) : List Char :=
  match u.authority.dropWhile (· ≠ '@') with
  | [] => u.authority
  | _ :: rest => rest

/-- The port in the authority. -/
def port? (u : Uri) : Option Nat :=
  if u.authority.contains ':' then
    Text.unsigned? (twoPow 16) (String.ofList (u.authority.reverse.takeWhile (· ≠ ':')).reverse)
  else none

end Uri

end FillFeed
