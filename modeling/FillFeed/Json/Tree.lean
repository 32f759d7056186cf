import FillFeed.Json.Literal

/-!
# JSON as it is written

A `Tree` is the syntax of a JSON text, before anything is asked of it: numbers are literals, the
members of an object stand in their order with all repetitions, and a string in which an escape
names half of a surrogate pair is known to be a string but has no text. What a reader skips only
needs to be a tree; `Tree.value?` gives the value of a tree that is not skipped.
-/

namespace FillFeed.Json

/-- The syntax of a JSON text. -/
inductive Tree where
  | null
  | bool (b : Bool)
  | number (l : Literal)
  | string (s : Option String)
  | array (items : List Tree)
  | object (members : List (Option String × Tree))

/-- Arrays and objects may be nested this deep in a value. -/
def depthLimit : Nat := 127

namespace Tree

mutual

/-- The value of a tree whose arrays and objects are nested at most `depth` deep. -/
def toValue (depth : Nat) : Tree → Option Json
  | .null => some .null
  | .bool b => some (.bool b)
  | .number l => l.number?.map .number
  | .string s => s.map .string
  | .array items => if depth = 0 then none else (toValues (depth - 1) items).map .array
  | .object members => if depth = 0 then none else (toMembers (depth - 1) members).map ofMembers

/-- The values of the items of an array. -/
def toValues (depth : Nat) : List Tree → Option (List Json)
  | [] => some []
  | t :: ts =>
    match toValue depth t, toValues depth ts with
    | some v, some vs => some (v :: vs)
    | _, _ => none

/-- The names and values of the members of an object. -/
def toMembers (depth : Nat) : List (Option String × Tree) → Option (List (String × Json))
  | [] => some []
  | (name, t) :: ts =>
    match name, toValue depth t, toMembers depth ts with
    | some name, some v, some vs => some ((name, v) :: vs)
    | _, _, _ => none

end

/-- The value of a tree. -/
def value? (t : Tree) : Option Json := toValue depthLimit t

/-- The text of a string. -/
def string? : Tree → Option String
  | .string s => s
  | _ => none

/-- What `null` stands for, or what the reader finds. -/
def nullable {α : Type} (read : Tree → Option α) : Tree → Option (Option α)
  | .null => some none
  | t => (read t).map some

/-- The name of a constant: a string, or an object whose only member has that name and is null. -/
def constant? : Tree → Option String
  | .string s => s
  | .object [(name, .null)] => name
  | _ => none

end Tree

end FillFeed.Json
