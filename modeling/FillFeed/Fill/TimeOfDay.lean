import FillFeed.Numeric.Power
import FillFeed.Text.Blank
import FillFeed.Text.Digits
import FillFeed.Text.Quoted

/-!
# Times of day

A time of day runs to the nanosecond and may have a 60th second, a leap second. It is read from
two notations: `ofClock?` takes hours, minutes and seconds one after the other, as the feed writes
them, and `read?` takes them with colons between, as events are written.
-/

namespace FillFeed

/-- A time of day. -/
structure TimeOfDay where
  hour : Nat
  minute : Nat
  second : Nat
  nanos : Nat
  hour_lt : hour < 24
  minute_lt : minute < 60
  second_le : second ≤ 60
  nanos_lt : nanos < 1000000000
  deriving DecidableEq

namespace TimeOfDay

/-- The time with these parts, when they are in range. -/
def make? (hour minute second nanos : Nat) : Option TimeOfDay :=
  if h : hour < 24 ∧ minute < 60 ∧ second ≤ 60 ∧ nanos < 1000000000 then
    some ⟨hour, minute, second, nanos, h.1, h.2.1, h.2.2.1, h.2.2.2⟩
  else none

/-- The values of at most `most` digits at the start of a text, and the text after them. -/
def upTo : (most : Nat) → List Char → List Nat × List Char
  | 0, cs => ([], cs)
  | _, [] => ([], [])
  | most + 1, c :: cs =>
    match Text.digit? c with
    | some d => let (ds, rest) := upTo most cs; (d :: ds, rest)
    | none => ([], c :: cs)

/-- Reads a number of one or two digits after any blanks. -/
def number? (cs : List Char) : Option (Nat × List Char) :=
  match upTo 2 (Text.dropBlanks cs) with
  | ([], _) => none
  | (ds, rest) => some (Text.natOfDigits ds, rest)

/-- The time that three numbers in a row denote. -/
def ofClock? (cs : List Char) : Option TimeOfDay := do
  let (hour, rest) ← number? cs
  let (minute, rest) ← number? rest
  let (second, rest) ← number? rest
  if rest = [] then make? hour minute second 0 else none

/-- Reads a given character after any blanks. -/
def mark? (c : Char) (cs : List Char) : Option (List Char) :=
  match Text.dropBlanks cs with
  | d :: rest => if d = c then some rest else none
  | [] => none

/-- Reads the fraction of a second in nanoseconds; digits past the ninth are skipped. -/
def fraction? : List Char → Option (Nat × List Char)
  | '.' :: cs =>
    match upTo 9 cs with
    | ([], _) => none
    | (ds, rest) =>
      some (Text.natOfDigits ds * tenPow (9 - ds.length), (Text.spanDigits rest).2)
  | cs => some (0, cs)

/-- Reads hours and minutes with a colon between. -/
def hourMinute? (cs : List Char) : Option (Nat × Nat × List Char) := do
  let (hour, rest) ← number? cs
  let rest ← mark? ':' rest
  let (minute, rest) ← number? rest
  some (hour, minute, rest)

/-- Reads a colon, seconds and an optional fraction. -/
def seconds? (cs : List Char) : Option (Nat × Nat × List Char) := do
  let rest ← mark? ':' cs
  let (second, rest) ← number? rest
  let (nanos, rest) ← fraction? rest
  some (second, nanos, rest)

/-- The time that a text denotes; the seconds may be left out. -/
def read? (s : String) : Option TimeOfDay := do
  let (hour, minute, rest) ← hourMinute? s.toList
  match seconds? rest with
  | some (second, nanos, rest) =>
    if Text.dropBlanks rest = [] then make? hour minute second nanos else none
  | none => if Text.dropBlanks rest = [] then make? hour minute 0 0 else none

/-- A number of at least `width` digits. -/
def padded (width n : Nat) : List Char :=
  let ds := Nat.toDigits 10 n
  List.replicate (width - ds.length) '0' ++ ds

/-- The fraction of a second, in as few of three, six or nine digits as it needs. -/
def fractionChars (nanos : Nat) : List Char :=
  if nanos = 0 then []
  else if nanos % 1000000 = 0 then '.' :: padded 3 (nanos / 1000000)
  else if nanos % 1000 = 0 then '.' :: padded 6 (nanos / 1000)
  else '.' :: padded 9 nanos

/-- The characters of a time. -/
def toChars (t : TimeOfDay) : List Char :=
  padded 2 t.hour ++ ':' :: padded 2 t.minute ++ ':' :: padded 2 t.second ++ fractionChars t.nanos

/-- The text of a time. -/
def toText (t : TimeOfDay) : String := String.ofList t.toChars

end TimeOfDay

end FillFeed
