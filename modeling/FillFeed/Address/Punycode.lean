/-!
# Labels outside of ASCII

The label of a domain that holds characters outside of ASCII is written in letters, digits and
dashes: first its ASCII characters, and then, after a dash, the places and the code points of the
others as differences in digits of base 36. `Punycode.encode` writes and `Punycode.decode?` reads.
-/

namespace FillFeed.Punycode

/-- A digit of base 36: the letters come first. -/
def digitChar (n : Nat) : Char := if n < 26 then Char.ofNat (97 + n) else Char.ofNat (22 + n)

/-- The value of a digit of base 36. -/
def digit? (c : Char) : Option Nat :=
  if 'a' ≤ c ∧ c ≤ 'z' then some (c.toNat - 97)
  else if 'A' ≤ c ∧ c ≤ 'Z' then some (c.toNat - 65)
  else if '0' ≤ c ∧ c ≤ '9' then some (c.toNat - 22)
  else none

/-- The least value that goes on at a place, which counts in steps of 36. -/
def threshold (place bias : Nat) : Nat :=
  if place ≤ bias then 1 else if bias + 26 ≤ place then 26 else place - bias

/-- Divides by 35 until little is left, and counts how often. -/
def settle : (fuel delta count : Nat) → Nat × Nat
  | 0, delta, count => (delta, count)
  | fuel + 1, delta, count =>
    if 455 < delta then settle fuel (delta / 35) (count + 36) else (delta, count)

/-- The bias after a difference, when so many characters have been placed. -/
def adapt (delta placed : Nat) (isFirst : Bool) : Nat :=
  let delta := if isFirst then delta / 700 else delta / 2
  let (delta, count) := settle delta.log2.succ (delta + delta / placed) 0
  count + 36 * delta / (delta + 38)

/-- A difference in digits. -/
def digits : (fuel place bias delta : Nat) → List Char
  | 0, _, _, delta => [digitChar delta]
  | fuel + 1, place, bias, delta =>
    let t := threshold place bias
    if delta < t then [digitChar delta]
    else
      digitChar (t + (delta - t) % (36 - t)) ::
        digits fuel (place + 36) bias ((delta - t) / (36 - t))

/-- What has been written, the difference so far, the bias, and how many characters are placed. -/
structure Writing where
  written : List Char
  delta : Nat
  bias : Nat
  placed : Nat

/-- Passes a character, while those with one code point are placed; `ascii` of the characters were
placed from the start. -/
def Writing.pass (ascii n : Nat) (w : Writing) (c : Char) : Writing :=
  if c.toNat < n then { w with delta := w.delta + 1 }
  else if c.toNat = n then
    ⟨w.written ++ digits w.delta.log2.succ 36 w.bias w.delta, 0,
      adapt w.delta (w.placed + 1) (w.placed == ascii), w.placed + 1⟩
  else w

/-- Places the characters with the given code points, which increase, from `n` on. -/
def place (cs : List Char) (ascii : Nat) : (n : Nat) → Writing → List Nat → Writing
  | _, w, [] => w
  | n, w, m :: ms =>
    let w := { w with delta := w.delta + (m - n) * (w.placed + 1) }
    let w := cs.foldl (Writing.pass ascii m) w
    place cs ascii (m + 1) { w with delta := w.delta + 1 } ms

/-- A label in letters, digits and dashes. -/
def encode (cs : List Char) : List Char :=
  let ascii := cs.filter (·.toNat < 0x80)
  let others := ((cs.map Char.toNat).filter (0x80 ≤ ·)).eraseDups.mergeSort (· ≤ ·)
  let w := place cs ascii.length 0x80 ⟨[], 0, 72, ascii.length⟩ others
  ascii ++ (if ascii = [] then [] else ['-']) ++ w.written

/-- Reads a difference in digits, weighted from a place on, and what follows it. -/
def difference? : (place bias weight : Nat) → List Char → Option (Nat × List Char)
  | _, _, _, [] => none
  | place, bias, weight, c :: cs =>
    match digit? c with
    | none => none
    | some d =>
      let t := threshold place bias
      if d < t then some (d * weight, cs)
      else
        (difference? (place + 36) bias (weight * (36 - t)) cs).map fun (n, rest) =>
          (d * weight + n, rest)

/-- Reads differences and places characters among those that are there. -/
def insertAll : (fuel : Nat) → (placed : List Nat) → (n spot bias : Nat) → List Char →
    Option (List Nat)
  | _, placed, _, _, _, [] => some placed
  | 0, _, _, _, _, _ => none
  | fuel + 1, placed, n, spot, bias, cs =>
    match difference? 36 bias 1 cs with
    | none => none
    | some (delta, rest) =>
      let size := placed.length + 1
      let total := spot + delta
      let n := n + total / size
      let next := total % size
      if n.isValidChar then
        insertAll fuel (placed.take next ++ n :: placed.drop next) n (next + 1)
          (adapt delta size (spot == 0)) rest
      else none

/-- The label that letters, digits and dashes stand for. -/
def decode? (cs : List Char) : Option (List Char) :=
  let tail := (cs.reverse.takeWhile (· ≠ '-')).reverse
  let head := cs.take (cs.length - tail.length - 1)
  (insertAll tail.length (head.map Char.toNat) 0x80 0 72 tail).map (·.map Char.ofNat)

end FillFeed.Punycode
