/-!
# Fields between separators

`splitChars sep` cuts a text at every occurrence of a separator, so that there is always one
field more than there are separators. `containsChars` looks for a word inside a text.
-/

namespace FillFeed.Text

/-- The fields of a text between the separators, in order; a text without one is one field. -/
def splitChars (sep : Char) : List Char → List (List Char)
  | [] => [[]]
  | c :: cs =>
    if c = sep then [] :: splitChars sep cs
    else match splitChars sep cs with
      | [] => [[c]]
      | field :: fields => (c :: field) :: fields

/-- The fields of a text between the separators, in order. -/
def split (sep : Char) (s : String) : List String := (splitChars sep s.toList).map String.ofList

/-- Whether a word stands somewhere in a text. -/
def containsChars (word : List Char) : List Char → Bool
  | [] => word.isEmpty
  | c :: cs => word.isPrefixOf (c :: cs) || containsChars word cs

/-- The lower-case form of the ASCII letters; every other character stays. -/
def asciiLower (c : Char) : Char :=
  if 'A' ≤ c ∧ c ≤ 'Z' then Char.ofNat (c.toNat + 32) else c

end FillFeed.Text
