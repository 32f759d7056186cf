import FillFeed.Numeric.Binary64

/-!
# JSON values

`Json` is a value as a program holds it: numbers are whole numbers of 64 bits where they are
written as such and double-precision numbers otherwise, and the members of an object are listed in
order. `Json.ofMembers` puts members into the order of their names, the last of equal names
winning.
-/

namespace FillFeed

/-- A JSON number. -/
inductive Json.Number where
  | int (n : Int)
  | float (x : Binary64)
  deriving DecidableEq

/-- A JSON value. -/
inductive Json where
  | null
  | bool (b : Bool)
  | number (n : Json.Number)
  | string (s : String)
  | array (items : List Json)
  | object (members : List (String × Json))

namespace Json

/-- Members in the order of their names with one more of them put in its place, which it takes
over from a member of the same name. -/
def insertMember (name : String) (value : Json) : List (String × Json) → List (String × Json)
  | [] => [(name, value)]
  | (other, old) :: rest =>
    if name = other then (name, value) :: rest
    else if name < other then (name, value) :: (other, old) :: rest
    else (other, old) :: insertMember name value rest

/-- The object with these members: ordered by name, the last of equal names winning. -/
def ofMembers (members : List (String × Json)) : Json :=
  .object (members.foldl (fun acc (name, value) => insertMember name value acc) [])

end Json

end FillFeed
