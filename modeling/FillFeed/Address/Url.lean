import FillFeed.Address.Host

/-!
# Locations

`Url.read?` reads a location: a scheme, then for most schemes an authority with a user, a host and a
port, then a path, a query and a fragment. Paths are resolved: steps to the directory above take the
directory away. `Url.text` writes a location in its one way, with characters encoded where they have
to be.
-/

namespace FillFeed

/-- The part of a location that says where it leads: the name and the password of a user, a host,
and a port other than the usual one. -/
structure Url.Authority where
  user : List Char
  password : Option (List Char)
  host : Host
  port : Option Nat
  deriving DecidableEq

/-- A location. -/
structure Url where
  scheme : String
  authority : Option Url.Authority
  path : List Char
  query : Option (List Char)
  fragment : Option (List Char)
  deriving DecidableEq

namespace Url

/-- How the schemes differ: the well-known ones have a host, the one of files may have one, and
others have one only after two slashes. -/
inductive Family where
  | network
  | file
  | other
  deriving DecidableEq

/-- The family of a scheme. -/
def Family.ofScheme (scheme : String) : Family :=
  if ["http", "https", "ws", "wss", "ftp"].contains scheme then .network
  else if scheme = "file" then .file
  else .other

/-- Whether a backslash stands for a slash. -/
def Family.isSpecial (f : Family) : Bool := f ≠ .other

/-- The port that goes without saying. -/
def usualPort? (scheme : String) : Option Nat :=
  if scheme = "http" ∨ scheme = "ws" then some 80
  else if scheme = "https" ∨ scheme = "wss" then some 443
  else if scheme = "ftp" then some 21
  else none

/-- Whether a character ends an authority. -/
def endsAuthority (f : Family) (c : Char) : Bool :=
  c = '/' || c = '?' || c = '#' || (f.isSpecial && c = '\\')

/-- Whether a character separates the steps of a path. -/
def isSlash (f : Family) (c : Char) : Bool := c = '/' || (f.isSpecial && c = '\\')

/-- Whether a text is a letter and a colon or a bar. -/
def isDrive : List Char → Bool
  | [c, d] => c.isAlpha && (d = ':' || d = '|')
  | _ => false

/-- Whether a text begins like the root of a drive. -/
def startsWithDrive : List Char → Bool
  | c :: d :: rest => isDrive [c, d] && rest.head?.all "/\\?#".toList.contains
  | _ => false

/-- A path without what follows its last slash. -/
def upToSlash (path : List Char) : List Char := (path.reverse.dropWhile (· ≠ '/')).reverse

/-- A path that ends with a slash, without that slash, unless it is the root or that of a drive. -/
def dropSlash (path : List Char) : List Char :=
  let before := upToSlash path.dropLast
  let step := path.drop before.length
  if path.getLast? = some '/' ∧ before ≠ [] ∧ !startsWithDrive step then path.dropLast else path

/-- The directory above the one that a path ends with. -/
def parent (f : Family) (path : List Char) : List Char :=
  let path := dropSlash path
  let up := upToSlash path
  let step := path.drop up.length
  if f = .file ∧ isDrive step ∧ step.getLast? = some ':' then path else up

/-- The ways to write a step to the directory above. -/
def isUp (step : List Char) : Bool :=
  ["..", "%2e%2e", "%2e.", ".%2e"].contains (String.ofList (step.map Text.asciiLower))

/-- The ways to write a step that stays. -/
def isHere (step : List Char) : Bool :=
  [".", "%2e"].contains (String.ofList (step.map Text.asciiLower))

/-- A path with a slash at its end. -/
def withSlash (path : List Char) : List Char :=
  if path.getLast? = some '/' then path else path ++ ['/']

/-- A path after a step, which may end with a slash. -/
def takeStep (f : Family) (path step : List Char) (slashed : Bool) : List Char :=
  if isUp step then
    let up := parent f path
    if slashed then withSlash up else up
  else if isHere step then withSlash path
  else
    let step := if f = .file ∧ path.length = 1 ∧ isDrive step then step.take 1 ++ [':'] else step
    path ++ step ++ (if slashed then ['/'] else [])

/-- Takes the steps of a path from where it stands, up to a query or a fragment, and gives what
follows. -/
def walk (f : Family) : (fuel : Nat) → (path : List Char) → List Char → List Char × List Char
  | 0, path, cs => (path, cs)
  | fuel + 1, path, cs =>
    let step := cs.takeWhile fun c => !isSlash f c && c ≠ '?' && c ≠ '#'
    let shown := Percent.encode Percent.inPath step
    match cs.drop step.length with
    | c :: rest =>
      if isSlash f c then walk f fuel (takeStep f path shown true) rest
      else (takeStep f path shown false, c :: rest)
    | [] => (takeStep f path shown false, [])

/-- The path of a location from where it stands, and what follows it. -/
def resolve (f : Family) (start cs : List Char) : List Char × List Char :=
  let (path, rest) := walk f (cs.length + 1) start cs
  (if f = .file then '/' :: path.dropWhile (· = '/') else path, rest)

/-- The path after an authority, and what follows it. -/
def pathAfterHost (f : Family) (cs : List Char) : List Char × List Char :=
  match f, cs with
  | .other, [] => ([], [])
  | .other, c :: rest =>
    if c = '?' ∨ c = '#' then ([], cs)
    else if c = '/' then resolve f [] cs
    else resolve f ['/'] (c :: rest)
  | _, c :: rest => if isSlash f c then resolve f ['/'] rest else resolve f ['/'] cs
  | _, [] => resolve f ['/'] []

/-- The name and the password of a user at the start of an authority, encoded, and what follows
their sign. -/
def user (f : Family) (cs : List Char) : List Char × Option (List Char) × List Char :=
  let whole := cs.takeWhile (!endsAuthority f ·)
  let after := (whole.reverse.takeWhile (· ≠ '@')).reverse
  if after.length = whole.length then ([], none, cs)
  else
    let both := whole.take (whole.length - after.length - 1)
    let name := both.takeWhile (· ≠ ':')
    let password := both.drop (name.length + 1)
    (Percent.encode Percent.inUser name,
      if password = [] then none else some (Percent.encode Percent.inUser password),
      cs.drop (whole.length - after.length))

/-- The host at the start of a text ends before a colon outside of brackets. -/
def hostLength (f : Family) : (inside : Bool) → List Char → Nat
  | _, [] => 0
  | inside, c :: cs =>
    if endsAuthority f c ∨ (c = ':' ∧ !inside) then 0
    else hostLength f (if c = '[' then true else if c = ']' then false else inside) cs + 1

/-- The port at the start of a text, if there is one other than the usual one, and what follows
it. -/
def port? (scheme : String) : List Char → Option (Option Nat × List Char)
  | ':' :: cs =>
    let ds := cs.takeWhile Text.isDigit
    let rest := cs.drop ds.length
    let n := Text.natOfDigits (ds.filterMap Text.digit?)
    if rest.head?.all "/\\?#".toList.contains ∧ n < twoPow 16 then
      some (if ds = [] ∨ usualPort? scheme = some n then none else some n, rest)
    else none
  | cs => some (none, cs)

/-- An authority, and what follows it. Only a scheme that is not well-known can do without a host,
and then there is neither a user nor a port. -/
def authority? (scheme : String) (f : Family) (cs : List Char) :
    Option (Authority × List Char) := do
  let (name, password, rest) := user f cs
  let length := hostLength f false rest
  let whole := rest.take length
  let isBare := rest.length + 1 = cs.length
  let host ← if f = .network then Host.read? whole else Host.verbatim? whole
  let rest := rest.drop length
  if host = .name [] ∧ (rest.head? = some ':' ∨ name ≠ [] ∨ password.isSome ∨
      (isBare ∧ rest.head?.any (endsAuthority f))) then none
  else
    let (port, rest) ← port? scheme rest
    some (⟨name, password, host, port⟩, rest)

/-- The host of a file, and what follows it. The own host is left out. -/
def fileHost? (cs : List Char) : Option (Host × List Char) := do
  let whole := cs.takeWhile (!endsAuthority .file ·)
  if whole = [] ∨ isDrive whole then some (.name [], cs)
  else
    let host ← Host.read? whole
    some (if host = .name "localhost".toList then .name [] else host, cs.drop whole.length)

/-- An authority that is a host alone. -/
def Authority.ofHost (host : Host) : Authority := ⟨[], none, host, none⟩

/-- The authority and the path of a file, and what follows them. A file on a drive has no host. -/
def file? (cs : List Char) : Option (Authority × List Char × List Char) :=
  match cs with
  | [] => let (p, rest) := resolve .file ['/'] []; some (.ofHost (.name []), p, rest)
  | c :: cs' =>
    if !isSlash .file c then
      let (p, rest) := resolve .file ['/'] (c :: cs'); some (.ofHost (.name []), p, rest)
    else match cs' with
      | d :: rest =>
        if isSlash .file d then
          (fileHost? rest).map fun (host, rest) =>
            let (p, rest) :=
              if host = .name [] then resolve .file ['/'] rest else pathAfterHost .file rest
            (.ofHost (if startsWithDrive (p.drop 1) then .name [] else host), p, rest)
        else let (p, rest) := resolve .file [] cs; some (.ofHost (.name []), p, rest)
      | [] => let (p, rest) := resolve .file [] cs; some (.ofHost (.name []), p, rest)

/-- A query and a fragment at the end of a location. -/
def tail (f : Family) (cs : List Char) : Option (List Char) × Option (List Char) :=
  let query := cs.takeWhile (· ≠ '#')
  let fragment := match cs.drop query.length with
    | [] => none
    | _ :: rest => some (Percent.encode Percent.inFragment rest)
  match query with
  | [] => (none, fragment)
  | _ :: query => (some (Percent.encode (Percent.inQuery f.isSpecial) query), fragment)

/-- The path of a location without authority, and what follows it: resolved if it begins with a
slash, and otherwise taken as it is. -/
def lonePath (cs : List Char) : List Char × List Char :=
  match cs with
  | '/' :: rest => resolve .other ['/'] rest
  | _ =>
    let whole := cs.takeWhile fun c => c ≠ '?' && c ≠ '#'
    (Percent.encode Percent.inControls whole, cs.drop whole.length)

/-- What follows a scheme. -/
def readRest? (scheme : String) (cs : List Char) : Option Url := do
  let f := Family.ofScheme scheme
  let (authority, path, rest) ← match f, cs with
    | .network, cs =>
      (authority? scheme f (cs.dropWhile (isSlash f))).map fun (a, rest) =>
        let (p, rest) := pathAfterHost f rest
        (some a, p, rest)
    | .file, cs => (file? cs).map fun (a, p, rest) => (some a, p, rest)
    | .other, '/' :: '/' :: rest =>
      (authority? scheme f rest).map fun (a, rest) =>
        let (p, rest) := pathAfterHost f rest
        (some a, p, rest)
    | .other, cs => let (p, rest) := lonePath cs; some (none, p, rest)
  let (query, fragment) := tail f rest
  some ⟨scheme, authority, path, query, fragment⟩

/-- Whether a character can stand in a scheme. -/
def inScheme (c : Char) : Bool := c.isAlphanum || c = '+' || c = '-' || c = '.'

/-- Whether a character is left out at the ends of a text. -/
def isMargin (c : Char) : Bool := c.toNat ≤ 0x20

/-- A text without controls and blanks at its ends, and without tabs and line ends. -/
def cleaned (cs : List Char) : List Char :=
  ((((cs.dropWhile isMargin).reverse).dropWhile isMargin).reverse).filter fun c =>
    c ≠ '\t' && c ≠ '\n' && c ≠ '\r'

/-- The location that a text denotes. -/
def read? (s : String) : Option Url :=
  let cs := cleaned s.toList
  let scheme := cs.takeWhile inScheme
  match scheme.head?, cs.drop scheme.length with
  | some c, ':' :: rest =>
    if c.isAlpha then readRest? (String.ofList (scheme.map Text.asciiLower)) rest else none
  | _, _ => none

/-- The text of an authority. -/
def Authority.text (a : Authority) : List Char :=
  a.user ++ (match a.password with | some p => ':' :: p | none => []) ++
    (if a.user = [] ∧ a.password = none then [] else ['@']) ++ a.host.text ++
    (match a.port with | some n => ':' :: Nat.toDigits 10 n | none => [])

/-- The text of a location. A path alone must not look like an authority. -/
def text (u : Url) : String :=
  let start := match u.authority with
    | some a => '/' :: '/' :: a.text
    | none => if "//".toList.isPrefixOf u.path then ['/', '.'] else []
  String.ofList (u.scheme.toList ++ ':' :: start ++ u.path ++
    (match u.query with | some q => '?' :: q | none => []) ++
    (match u.fragment with | some f => '#' :: f | none => []))

/-- Whether a location leads to this machine: it names no host, or the own one. -/
def isLocal (u : Url) : Bool :=
  u.authority.all fun a => a.host = .name [] || a.host = .name "localhost".toList

/-- A location without its user, if the user's name is a text. -/
def withoutUser (u : Url) : Url :=
  match u.authority with
  | none => u
  | some a =>
    let isText (cs : List Char) : Bool := (Utf8.decode? (Percent.decode cs)).isSome
    if isText a.user ∧ (a.user ≠ [] ∨ a.password.any isText) then
      { u with authority := some { a with user := [], password := none } }
    else u

end Url

end FillFeed
