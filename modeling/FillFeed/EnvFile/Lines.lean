import FillFeed.Text.Blank

/-!
# Lines of a variables file

A line of a variables file goes on over the end of a written line as long as a quote is open, and
ends where a comment begins. `lines` cuts a text into such lines; one that is still open at the end
of the text is broken.
-/

namespace FillFeed.EnvFile

/-- Where the reading of a line stands: outside of quotes, after a blank there, after a backslash
there, or inside of quotes of a kind, perhaps after a backslash. -/
inductive Spot where
  | plain
  | blank
  | escaped
  | strong
  | strongEscaped
  | weak
  | weakEscaped
  deriving DecidableEq

namespace Spot

/-- What a character outside of quotes leads to, when it is no blank. -/
def opened (c : Char) : Spot :=
  if c = '\\' then .escaped
  else if c = '"' then .weak
  else if c = '\'' then .strong
  else .plain

/-- The spot after one more character; a comment begins at a number sign after a single blank. -/
def next : Spot → Char → Option Spot
  | .plain, c =>
    some (if Text.isBlank c && c ≠ '\n' && c ≠ '\r' then .blank else opened c)
  | .blank, c => if c = '#' then none else some (opened c)
  | .escaped, _ => some .plain
  | .strong, c =>
    some (if c = '\\' then .strongEscaped else if c = '\'' then .plain else .strong)
  | .strongEscaped, _ => some .strong
  | .weak, c => some (if c = '\\' then .weakEscaped else if c = '"' then .plain else .weak)
  | .weakEscaped, _ => some .weak

end Spot

/-- Reads on from a spot: the text up to a comment, and the spot at the end unless a comment was
met. -/
def scan (spot : Spot) : List Char → List Char × Option Spot
  | [] => ([], some spot)
  | c :: cs =>
    match spot.next c with
    | none => ([], none)
    | some spot => let (kept, last) := scan spot cs; (c :: kept, last)

/-- The written lines of a text, each with the character that ends it. -/
def writtenLines : List Char → List (List Char)
  | [] => []
  | c :: cs =>
    if c = '\n' then ['\n'] :: writtenLines cs
    else match writtenLines cs with
      | [] => [[c]]
      | line :: rest => (c :: line) :: rest

/-- Puts written lines together to lines, after the beginning of one that is still open. A line
that is a comment from its start is left out, and `none` stands for a broken line at the end. -/
def joinLines (pending : Option (List Char × Spot)) : List (List Char) → List (Option (List Char))
  | [] => if pending.isSome then [none] else []
  | written :: rest =>
    let (before, spot) := pending.getD ([], .plain)
    if (Text.dropBlanks (before ++ written)).head? = some '#' then joinLines none rest
    else match scan spot written with
      | (kept, none) | (kept, some .plain) => some (before ++ kept) :: joinLines none rest
      | (kept, some spot) => joinLines (some (before ++ kept, spot)) rest

/-- The lines of a text. -/
def lines (cs : List Char) : List (Option (List Char)) := joinLines none (writtenLines cs)

/-- Nothing of a text is lost when it is cut into written lines. -/
theorem flatten_writtenLines (cs : List Char) : (writtenLines cs).flatten = cs := by
  induction cs with
  | nil => rfl
  | cons c cs ih =>
    rw [writtenLines]
    split
    · rename_i h
      simp [ih, h]
    · split
      · rename_i h
        rw [h] at ih
        simp at ih
        simp [← ih]
      · rename_i line rest h
        rw [h] at ih
        simpa using ih

end FillFeed.EnvFile
