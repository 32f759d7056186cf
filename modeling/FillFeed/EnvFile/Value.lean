import FillFeed.Text.Alphanumeric

/-!
# Values in a variables file

A value may mix plain text, text between single quotes, which stands for itself, and text between
double quotes, where a backslash escapes and a dollar sign puts in the value of another variable.
`readValue` reads a value; only blanks and a comment may follow it.
-/

namespace FillFeed.EnvFile

/-- Where the reading of a value stands: in text, which may be inside of double quotes; after a
backslash; inside of single quotes; in a name after a dollar sign, or in one between braces; or
behind the value. -/
inductive Stage where
  | text (isQuoted : Bool)
  | escape (isQuoted : Bool)
  | literal
  | name (isQuoted : Bool) (read : List Char)
  | braced (isQuoted : Bool) (read : List Char)
  | behind

/-- What a backslash and a character stand for. -/
def unescape? (c : Char) : Option Char :=
  if c = 'n' then some '\n' else if "\\'\"$ ".toList.contains c then some c else none

/-- Reads a value from a stage on. Names are replaced by what they stand for. -/
def readValue (meaning : List Char → List Char) : Stage → List Char → Option (List Char)
  | .text isQuoted, [] => if isQuoted then none else some []
  | .escape isQuoted, [] => if isQuoted then none else some []
  | .literal, [] => none
  | .name isQuoted read, [] => if isQuoted then none else some (meaning read)
  | .braced _ _, [] => none
  | .behind, [] => some []
  | .text isQuoted, c :: cs =>
    if c = '$' then readValue meaning (.name isQuoted []) cs
    else if c = '\\' then readValue meaning (.escape isQuoted) cs
    else if c = '"' then readValue meaning (.text (!isQuoted)) cs
    else if isQuoted then (readValue meaning (.text true) cs).map (c :: ·)
    else if c = '\'' then readValue meaning .literal cs
    else if c = ' ' ∨ c = '\t' then readValue meaning .behind cs
    else (readValue meaning (.text false) cs).map (c :: ·)
  | .escape isQuoted, c :: cs =>
    match unescape? c with
    | none => none
    | some c => (readValue meaning (.text isQuoted) cs).map (c :: ·)
  | .literal, c :: cs =>
    if c = '\'' then readValue meaning (.text false) cs
    else (readValue meaning .literal cs).map (c :: ·)
  | .name isQuoted read, c :: cs =>
    if Text.isAlphanumeric c then readValue meaning (.name isQuoted (read ++ [c])) cs
    else if c = '\x7b' ∧ read = [] then readValue meaning (.braced isQuoted []) cs
    else if c = '$' then (readValue meaning (.name isQuoted []) cs).map (meaning read ++ ·)
    else (readValue meaning (.text isQuoted) cs).map (meaning read ++ c :: ·)
  | .braced isQuoted read, c :: cs =>
    if c = '\x7d' then (readValue meaning (.text isQuoted) cs).map (meaning read ++ ·)
    else readValue meaning (.braced isQuoted (read ++ [c])) cs
  | .behind, c :: cs =>
    if c = ' ' ∨ c = '\t' then readValue meaning .behind cs
    else if c = '#' then some []
    else none

/-- The value that a text denotes. -/
def value? (meaning : List Char → List Char) (cs : List Char) : Option (List Char) :=
  readValue meaning (.text false) cs

/-- A text between single quotes stands for itself. -/
theorem readValue_literal (meaning : List Char → List Char) {cs : List Char} (h : '\'' ∉ cs) :
    readValue meaning .literal (cs ++ ['\'']) = some cs := by
  induction cs with
  | nil => simp [readValue]
  | cons c cs ih =>
    simp only [List.mem_cons, not_or] at h
    rw [List.cons_append, readValue, if_neg (Ne.symm h.1), ih h.2]
    rfl

end FillFeed.EnvFile
