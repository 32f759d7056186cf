/-!
# Digits

Runs of ASCII digits and the numbers they denote. `natOfDigits` reads a run as a number in base
ten, and `unsigned?` is the reader of bounded whole numbers: an optional `+`, at least one digit,
nothing else, and a value below the bound.
-/

namespace FillFeed.Text

/-- The value of an ASCII digit. -/
def digit? (c : Char) : Option Nat :=
  if '0' ≤ c ∧ c ≤ '9' then some (c.toNat - '0'.toNat) else none

/-- Whether a character is an ASCII digit. -/
def isDigit (c : Char) : Bool := (digit? c).isSome

/-- The values of the digits in a text, when it holds nothing else. -/
def digits? (cs : List Char) : Option (List Nat) := cs.mapM digit?

/-- The number that some digits denote, continuing the number `n`. -/
def extendNat (n : Nat) (ds : List Nat) : Nat := ds.foldl (fun n d => n * 10 + d) n

/-- The number that some digits denote. -/
def natOfDigits (ds : List Nat) : Nat := extendNat 0 ds

/-- The values of the digits at the start of a text, and the text after them. -/
def spanDigits : List Char → List Nat × List Char
  | [] => ([], [])
  | c :: cs =>
    match digit? c with
    | some d => let (ds, rest) := spanDigits cs; (d :: ds, rest)
    | none => ([], c :: cs)

/-- The whole number below `bound` that a text denotes in decimal, with an optional `+`. -/
def unsigned? (bound : Nat) (s : String) : Option Nat :=
  let body := match s.toList with
    | '+' :: cs => cs
    | cs => cs
  match digits? body with
  | none | some [] => none
  | some ds => if natOfDigits ds < bound then some (natOfDigits ds) else none

end FillFeed.Text
