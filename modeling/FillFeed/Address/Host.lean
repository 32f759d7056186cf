import FillFeed.Address.Percent
import FillFeed.Address.Punycode
import FillFeed.Numeric.Power
import FillFeed.Text.Alphanumeric
import FillFeed.Text.Digits
import FillFeed.Text.Fields
import FillFeed.Text.Printable
import FillFeed.Text.Uppercase

/-!
# Hosts

A `Host` in an address is a name, or one of the two kinds of numbers. A name whose last label is a
number has to be a number as a whole, which may be written in parts and in base 8, 10 or 16; a
longer number stands in brackets. Names in other scripts are written in ASCII.
-/

namespace FillFeed

/-- Where an address points: a name, a number of 32 bits, or one of eight pieces of 16 bits. -/
inductive Host where
  | name (text : List Char)
  | short (n : Nat)
  | long (pieces : List Nat)
  deriving DecidableEq

namespace Host

/-- The four bytes of a number. -/
def shortText (n : Nat) : List Char :=
  let part (k : Nat) := Nat.toDigits 10 (n / k % 256)
  part 16777216 ++ '.' :: part 65536 ++ '.' :: part 256 ++ '.' :: part 1

/-- The length of the zeros at the start. -/
def zeros (pieces : List Nat) : Nat := (pieces.takeWhile (· = 0)).length

/-- The place and the length of the first of the longest runs of zeros. -/
def longestZeros : (place : Nat) → List Nat → Nat × Nat
  | _, [] => (0, 0)
  | place, p :: ps =>
    let here := zeros (p :: ps)
    let (later, length) := longestZeros (place + 1) ps
    if length ≤ here then (place, here) else (later, length)

/-- Pieces in hexadecimal with colons between. -/
def piecesText (pieces : List Nat) : List Char :=
  [':'].intercalate (pieces.map (Nat.toDigits 16))

/-- Eight pieces, with the longest run of zeros left out if there are two of them at least. -/
def longText (pieces : List Nat) : List Char :=
  let (place, length) := longestZeros 0 pieces
  if length < 2 then piecesText pieces
  else piecesText (pieces.take place) ++ ':' :: ':' :: piecesText (pieces.drop (place + length))

/-- The text of a host. -/
def text : Host → List Char
  | .name cs => cs
  | .short n => shortText n
  | .long pieces => '[' :: longText pieces ++ [']']

/-- The number that a part denotes: hexadecimal after `0x`, octal after `0`. -/
def number? (cs : List Char) : Option Nat :=
  let inBase (base : Nat) (ds : List Char) : Option Nat :=
    ds.foldlM (fun n c =>
      match Percent.digit? c with
      | some d => if d < base then some (n * base + d) else none
      | none => none) 0
  match cs with
  | [] => none
  | '0' :: 'x' :: ds | '0' :: 'X' :: ds => inBase 16 ds
  | '0' :: d :: ds => inBase 8 (d :: ds)
  | ds => inBase 10 ds

/-- Whether the last label of a name is a number, so that the name has to be one. -/
def endsInNumber (cs : List Char) : Bool :=
  let labels := (Text.splitChars '.' cs).reverse
  let last := match labels with
    | [] :: label :: _ => label
    | label :: _ => label
    | [] => []
  last ≠ [] && (last.all Text.isDigit || (number? last).isSome)

/-- The number whose parts are given, of which the last fills what the others leave. -/
def ofParts? (parts : List Nat) : Option Nat :=
  match parts.reverse with
  | [] => none
  | last :: rest =>
    if 3 < rest.length ∨ twoPow (8 * (4 - rest.length)) ≤ last ∨ rest.any (255 < ·) then none
    else
      let first := rest.reverse.foldl (fun n part => n * 256 + part) 0
      some (first * twoPow (8 * (4 - rest.length)) + last)

/-- The number that a name with points denotes. -/
def short? (cs : List Char) : Option Nat :=
  let labels := Text.splitChars '.' cs
  let labels := if labels.getLast? = some [] then labels.dropLast else labels
  (labels.mapM number?).bind ofParts?

/-- The piece at the start of a text, of up to four digits, and what follows them. -/
def piece (cs : List Char) : List Char × Nat × List Char :=
  let ds := (cs.take 4).takeWhile fun c => (Percent.digit? c).isSome
  (ds, ds.foldl (fun n c => n * 16 + (Percent.digit? c).getD 0) 0, cs.drop ds.length)

/-- A byte in decimal without zeros before it. -/
def byte? (cs : List Char) : Option Nat :=
  if cs ≠ [] ∧ cs.all Text.isDigit ∧ (cs.length = 1 ∨ cs.head? ≠ some '0') ∧ cs.length ≤ 3 then
    let n := Text.natOfDigits (cs.filterMap Text.digit?)
    if n ≤ 255 then some n else none
  else none

/-- The two pieces that four bytes with points between denote. -/
def bytePieces? (cs : List Char) : Option (List Nat) :=
  match (Text.splitChars '.' cs).mapM byte? with
  | some [a, b, c, d] => some [a * 256 + b, c * 256 + d]
  | _ => none

/-- Reads pieces with colons between, after those in `before`; a gap stands at most once. -/
def pieces? : (fuel : Nat) → (before : List Nat) → (gap : Option Nat) → List Char →
    Option (List Nat × Option Nat)
  | _, before, gap, [] => some (before, gap)
  | 0, _, _, _ => none
  | fuel + 1, before, gap, c :: cs =>
    let isFull := (if gap.isSome then 7 else 8) ≤ before.length
    if isFull then none
    else if c = ':' then
      if gap.isSome then none else pieces? fuel before (some before.length) cs
    else
      let (ds, n, rest) := piece (c :: cs)
      match rest with
      | [] => some (before ++ [n], gap)
      | '.' :: _ =>
        if ds = [] ∨ (if gap.isSome then 5 else 6) < before.length then none
        else (bytePieces? (c :: cs)).map fun ps => (before ++ ps, gap)
      | ':' :: rest =>
        if ds = [] ∨ rest = [] then none else pieces? fuel (before ++ [n]) gap rest
      | _ => none

/-- The eight pieces that a text between brackets denotes. -/
def long? (cs : List Char) : Option (List Nat) :=
  let read := match cs with
    | ':' :: ':' :: rest => pieces? cs.length [] (some 0) rest
    | ':' :: _ => none
    | _ => pieces? cs.length [] none cs
  match cs, read with
  | [_], _ | [], _ => none
  | _, some (pieces, some place) =>
    some (pieces.take place ++ List.replicate (8 - pieces.length) 0 ++ pieces.drop place)
  | _, some (pieces, none) => if pieces.length = 8 then some pieces else none
  | _, none => none

/-- The characters that no name has. -/
def isForbidden (c : Char) : Bool :=
  c.toNat ≤ 0x20 || c.toNat = 0x7F || "%#/:<>?@[\\]^|".toList.contains c

/-- The lower-case form of a character: the character whose upper-case form it is, in the widest run
of such characters. -/
def lowerChar (c : Char) : Char :=
  let runs := Text.caseRuns.filter fun run =>
    let n := ((c.toNat : Int) - run.offset).toNat
    run.covers n && c.toNat ≠ n
  let widest (best : Option Text.CaseRun) (run : Text.CaseRun) : Option Text.CaseRun :=
    match best with
    | some b => if b.last - b.first < run.last - run.first then some run else best
    | none => some run
  match runs.foldl widest none with
  | some run => Char.ofNat ((c.toNat : Int) - run.offset).toNat
  | none => c

/-- What a character of a name is written as: upper case becomes lower case, wide forms of ASCII
become ASCII, and marks without a shape are left out. -/
def fold (c : Char) : List Char :=
  let n := c.toNat
  if 0xFF01 ≤ n ∧ n ≤ 0xFF5E then [lowerChar (Char.ofNat (n - 0xFEE0))]
  else if n = 0x3002 ∨ n = 0xFF61 then ['.']
  else if n = 0xAD ∨ n = 0x200B ∨ n = 0x2060 ∨ n = 0xFEFF ∨ (0xFE00 ≤ n ∧ n ≤ 0xFE0F) then []
  else [lowerChar c]

/-- Whether a label can hold a character. -/
def inLabel (c : Char) : Bool := c.toNat < 0x80 || Text.isShown c || Text.isAlphanumeric c

/-- A label in ASCII, unless it is none. -/
def label? (cs : List Char) : Option (List Char) :=
  if cs.all (·.toNat < 0x80) then
    match cs with
    | 'x' :: 'n' :: '-' :: '-' :: rest =>
      match Punycode.decode? rest with
      | some whole =>
        if whole.any (0x80 ≤ ·.toNat) ∧ whole.all (fun c => inLabel c && fold c = [c]) ∧
            Punycode.encode whole = rest then some cs
        else none
      | none => none
    | _ => some cs
  else if cs.all inLabel then some ("xn--".toList ++ Punycode.encode cs)
  else none

/-- A name in ASCII, unless it is none. -/
def ascii? (cs : List Char) : Option (List Char) :=
  match (Text.splitChars '.' (cs.flatMap fold)).mapM label? with
  | some labels =>
    let whole := ['.'].intercalate labels
    if whole.any isForbidden then none else some whole
  | none => none

/-- A number between brackets. -/
def bracketed? (cs : List Char) : Option Host :=
  match cs with
  | '[' :: rest => if rest.getLast? = some ']' then (long? rest.dropLast).map .long else none
  | _ => none

/-- The host that a text denotes in an address of one of the well-known schemes. -/
def read? (cs : List Char) : Option Host :=
  if cs.head? = some '[' then bracketed? cs
  else
    match (Utf8.decode? (Percent.decode cs)).bind fun s => ascii? s.toList with
    | none | some [] => none
    | some whole => if endsInNumber whole then (short? whole).map .short else some (.name whole)

/-- The host that a text denotes in an address of another scheme; it may be empty. -/
def verbatim? (cs : List Char) : Option Host :=
  if cs.head? = some '[' then bracketed? cs
  else if cs.any fun c => "\x00\t\n\r #/:<>?@[\\]^|".toList.contains c then none
  else some (.name (Percent.encode Percent.inControls cs))

end Host

end FillFeed
