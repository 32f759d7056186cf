import FillFeed.EnvFile.Value
import FillFeed.Text.Blank

/-!
# Assignments in a variables file

A line of a variables file is empty, a comment, or an assignment: a name, an equals sign and a
value, after the word `export` if one likes.
-/

namespace FillFeed.EnvFile

/-- What a line says. -/
inductive Statement where
  | nothing
  | assign (name value : List Char)
  deriving DecidableEq

/-- The characters with which a name begins. -/
def beginsName (c : Char) : Bool := c.isAlpha || c = '_'

/-- The characters of a name. -/
def inName (c : Char) : Bool := c.isAlphanum || c = '_' || c = '.'

/-- The name at the start of a text, and what follows it and the blanks after it. -/
def name? (cs : List Char) : Option (List Char × List Char) :=
  match cs with
  | [] => none
  | c :: _ =>
    if beginsName c then
      let name := cs.takeWhile inName
      some (name, Text.dropBlanks (cs.drop name.length))
    else none

/-- What follows the equals sign at the start of a text, without leading blanks. -/
def afterEquals? : List Char → Option (List Char)
  | '=' :: cs => some (Text.dropBlanks cs)
  | _ => none

/-- The name and the text of the value of an assignment. -/
def target? (cs : List Char) : Option (List Char × List Char) :=
  match name? cs with
  | none => none
  | some (name, rest) =>
    match afterEquals? rest with
    | some value => some (name, value)
    | none =>
      if name = "export".toList then
        match name? rest with
        | none => none
        | some (name, rest) => (afterEquals? rest).map (name, ·)
      else none

/-- What a line says, if it is well-formed. -/
def statement? (meaning : List Char → List Char) (line : List Char) : Option Statement :=
  let body := Text.trimChars line
  if body = [] ∨ body.head? = some '#' then some .nothing
  else match target? body with
    | none => none
    | some (name, text) =>
      if text = [] ∨ text.head? = some '#' then some (.assign name [])
      else (value? meaning text).map (.assign name ·)

end FillFeed.EnvFile
