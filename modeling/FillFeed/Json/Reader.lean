import FillFeed.Json.Tree

/-!
# Reading JSON

`Tree.read?` reads a whole text as a JSON tree and accepts nothing but JSON around it: blanks are
the four of the standard, numbers have no leading zeros, and controls in strings are escaped.
The readers of parts take the text from a place on and give what they read together with the text
after it.
-/

namespace FillFeed.Json

/-- The blanks between the parts of a JSON text. -/
def isSpace (c : Char) : Bool := c == ' ' || c == '\t' || c == '\n' || c == '\r'

/-- A text without its leading blanks. -/
def skipSpace (cs : List Char) : List Char := cs.dropWhile isSpace

/-- The value of a hexadecimal digit. -/
def hexDigit? (c : Char) : Option Nat :=
  if '0' ≤ c ∧ c ≤ '9' then some (c.toNat - '0'.toNat)
  else if 'a' ≤ c ∧ c ≤ 'f' then some (c.toNat - 'a'.toNat + 10)
  else if 'A' ≤ c ∧ c ≤ 'F' then some (c.toNat - 'A'.toNat + 10)
  else none

/-- The value of four hexadecimal digits. -/
def hexUnit? (a b c d : Char) : Option Nat := do
  some ((((← hexDigit? a) * 16 + (← hexDigit? b)) * 16 + (← hexDigit? c)) * 16 + (← hexDigit? d))

/-- A piece of a string: a character, or half of a surrogate pair that an escape names. -/
inductive Piece where
  | char (c : Char)
  | high (n : Nat)
  | low (n : Nat)

/-- The piece that a code unit stands for. -/
def Piece.ofUnit (n : Nat) : Piece :=
  if 0xD800 ≤ n ∧ n ≤ 0xDBFF then .high (n - 0xD800)
  else if 0xDC00 ≤ n ∧ n ≤ 0xDFFF then .low (n - 0xDC00)
  else .char (Char.ofNat n)

/-- The character behind an escape of one letter. -/
def shortEscape? (c : Char) : Option Char :=
  match c with
  | '"' => some '"'
  | '\\' => some '\\'
  | '/' => some '/'
  | 'b' => some '\x08'
  | 'f' => some '\x0c'
  | 'n' => some '\n'
  | 'r' => some '\r'
  | 't' => some '\t'
  | _ => none

/-- Reads the pieces of a string up to its closing quote. -/
def pieces : List Char → Option (List Piece × List Char)
  | [] => none
  | '"' :: cs => some ([], cs)
  | '\\' :: 'u' :: a :: b :: c :: d :: cs =>
    match hexUnit? a b c d, pieces cs with
    | some n, some (ps, rest) => some (.ofUnit n :: ps, rest)
    | _, _ => none
  | '\\' :: e :: cs =>
    match shortEscape? e, pieces cs with
    | some c, some (ps, rest) => some (.char c :: ps, rest)
    | _, _ => none
  | c :: cs =>
    if c.toNat < 0x20 then none
    else match pieces cs with
      | some (ps, rest) => some (.char c :: ps, rest)
      | none => none

/-- The characters of some pieces; none when half of a surrogate pair stands alone. -/
def joinPieces : List Piece → Option (List Char)
  | [] => some []
  | .char c :: ps => (joinPieces ps).map (c :: ·)
  | .high h :: .low l :: ps =>
    (joinPieces ps).map (Char.ofNat (0x10000 + h * 0x400 + l) :: ·)
  | _ => none

/-- Reads a string after its opening quote. -/
def stringBody (cs : List Char) : Option (Option String × List Char) :=
  (pieces cs).map fun (ps, rest) => ((joinPieces ps).map String.ofList, rest)

/-- Reads the fraction of a number, if there is one. -/
def fractionPart : List Char → Option (List Nat × List Char)
  | '.' :: cs =>
    match Text.spanDigits cs with
    | ([], _) => none
    | (ds, rest) => some (ds, rest)
  | cs => some ([], cs)

/-- Reads the exponent of a number, if there is one. -/
def exponentPart : List Char → Option (Option (Bool × List Nat) × List Char)
  | [] => some (none, [])
  | mark :: cs =>
    if mark == 'e' || mark == 'E' then
      let (below, body) := match cs with
        | '-' :: ds => (true, ds)
        | '+' :: ds => (false, ds)
        | ds => (false, ds)
      match Text.spanDigits body with
      | ([], _) => none
      | (ds, rest) => some (some (below, ds), rest)
    else some (none, mark :: cs)

/-- Reads a number. -/
def literal (cs : List Char) : Option (Literal × List Char) :=
  let (negative, body) := match cs with
    | '-' :: ds => (true, ds)
    | ds => (false, ds)
  match Text.spanDigits body with
  | ([], _) | (0 :: _ :: _, _) => none
  | (whole, rest) => do
    let (fraction, rest) ← fractionPart rest
    let (exponent, rest) ← exponentPart rest
    some (⟨negative, whole, fraction, exponent⟩, rest)

mutual

/-- Reads a value. -/
def tree : (fuel : Nat) → List Char → Option (Tree × List Char)
  | 0, _ => none
  | fuel + 1, cs =>
    match skipSpace cs with
    | 'n' :: 'u' :: 'l' :: 'l' :: rest => some (.null, rest)
    | 't' :: 'r' :: 'u' :: 'e' :: rest => some (.bool true, rest)
    | 'f' :: 'a' :: 'l' :: 's' :: 'e' :: rest => some (.bool false, rest)
    | '"' :: rest => (stringBody rest).map fun (s, rest) => (.string s, rest)
    | '[' :: rest =>
      match skipSpace rest with
      | ']' :: rest => some (.array [], rest)
      | rest => (items fuel rest).map fun (ts, rest) => (.array ts, rest)
    | '\x7b' :: rest =>
      match skipSpace rest with
      | '\x7d' :: rest => some (.object [], rest)
      | rest => (members fuel rest).map fun (ms, rest) => (.object ms, rest)
    | cs => (literal cs).map fun (l, rest) => (.number l, rest)

/-- Reads the items of an array, of which there is at least one, and its closing bracket. -/
def items : (fuel : Nat) → List Char → Option (List Tree × List Char)
  | 0, _ => none
  | fuel + 1, cs =>
    match tree fuel cs with
    | none => none
    | some (t, rest) =>
      match skipSpace rest with
      | ']' :: rest => some ([t], rest)
      | ',' :: rest => (items fuel rest).map fun (ts, rest) => (t :: ts, rest)
      | _ => none

/-- Reads the members of an object, of which there is at least one, and its closing bracket. -/
def members : (fuel : Nat) → List Char → Option (List (Option String × Tree) × List Char)
  | 0, _ => none
  | fuel + 1, cs =>
    match skipSpace cs with
    | '"' :: rest =>
      match stringBody rest with
      | none => none
      | some (name, rest) =>
        match skipSpace rest with
        | ':' :: rest =>
          match tree fuel rest with
          | none => none
          | some (t, rest) =>
            match skipSpace rest with
            | '\x7d' :: rest => some ([(name, t)], rest)
            | ',' :: rest => (members fuel rest).map fun (ms, rest) => ((name, t) :: ms, rest)
            | _ => none
        | _ => none
    | _ => none

end

/-- Reads a whole text as a JSON tree. Two steps for each character are more than reading takes. -/
def Tree.readChars? (cs : List Char) : Option Tree :=
  match tree (2 * cs.length + 2) cs with
  | some (t, rest) => if skipSpace rest = [] then some t else none
  | none => none

/-- Reads a whole text as a JSON tree. -/
def Tree.read? (s : String) : Option Tree := Tree.readChars? s.toList

/-- Reads a whole text as a JSON value. -/
def read? (s : String) : Option Json := (Tree.read? s).bind Tree.value?

end FillFeed.Json
