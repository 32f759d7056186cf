import FillFeed.Json.Reader

/-!
# Records in JSON

A record is written as an object with a member for each field, or as an array of the fields in
their order. `Tree.record?` finds the trees of the fields: members with other names are skipped,
a field may not be given twice, and an array may be short but not long. What a missing field means
is said field by field: `required`, `optional` or `orElse`.
-/

namespace FillFeed.Json

/-- The trees of the fields of a record that were given, and whether they were given by place. -/
structure Record where
  given : List (String × Tree)
  byPlace : Bool

/-- The members with the given names, when every name is a text and none of these comes twice. -/
def pickMembers (names : List String) : List (Option String × Tree) → Option (List (String × Tree))
  | [] => some []
  | (name, t) :: rest =>
    match name, pickMembers names rest with
    | some name, some given =>
      if names.contains name then
        if (given.lookup name).isSome then none else some ((name, t) :: given)
      else some given
    | _, _ => none

/-- The record with these fields that a tree holds. -/
def Tree.record? (names : List String) : Tree → Option Record
  | .object members => (pickMembers names members).map fun given => ⟨given, false⟩
  | .array items =>
    if items.length ≤ names.length then some ⟨names.zip items, true⟩ else none
  | _ => none

namespace Record

variable {α : Type}

/-- A field that must be given. -/
def required (r : Record) (name : String) (read : Tree → Option α) : Option α :=
  (r.given.lookup name).bind read

/-- A field that is empty when it is null, or not given by name. -/
def optional (r : Record) (name : String) (read : Tree → Option α) : Option (Option α) :=
  match r.given.lookup name with
  | some t => t.nullable read
  | none => if r.byPlace then none else some none

/-- A field with a value of its own when it is not given. -/
def orElse (r : Record) (name : String) (absent : α) (read : Tree → Option α) : Option α :=
  match r.given.lookup name with
  | some t => read t
  | none => some absent

end Record

end FillFeed.Json
