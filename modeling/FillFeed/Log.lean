import FillFeed.Text.Quoted

/-!
# Log records

A `Log.Record` is one entry of the log: how severe it is, which part of the program it comes from,
what it says, and named values in their order. `Record.line` is its text after the level and the
target, and `Record.text` the text with them.
-/

namespace FillFeed.Log

/-- How severe a record is. -/
inductive Level where
  | error
  | warn
  | info
  | debug
  | trace
  deriving DecidableEq

namespace Level

/-- The label of a level. -/
def label : Level → String
  | .error => "ERROR"
  | .warn => "WARN"
  | .info => "INFO"
  | .debug => "DEBUG"
  | .trace => "TRACE"

/-- The rank of a level: the more severe, the lower. -/
def rank : Level → Nat
  | .error => 1
  | .warn => 2
  | .info => 3
  | .debug => 4
  | .trace => 5

end Level

/-- A named value, as it is shown. -/
structure Field where
  name : String
  value : String
  deriving DecidableEq

/-- A text shown as it is. -/
def Field.plain (name value : String) : Field := ⟨name, value⟩

/-- A text shown between quotes. -/
def Field.quoted (name value : String) : Field := ⟨name, Text.quote value⟩

/-- A whole number. -/
def Field.nat (name : String) (n : Nat) : Field := ⟨name, Text.decimalNat n⟩

/-- An entry of the log. -/
structure Record where
  level : Level
  target : String
  message : String
  fields : List Field
  deriving DecidableEq

/-- The names of what a record has: its message, and its values. -/
def Record.names (r : Record) : List String := "message" :: r.fields.map (·.name)

/-- The text of a record: the message, then each value after its name. -/
def Record.line (r : Record) : String :=
  r.message ++ String.join (r.fields.map fun f => " " ++ f.name ++ "=" ++ f.value)

/-- The text of a record with its level, set to five places, and its target. -/
def Record.text (r : Record) : String :=
  String.ofList (List.replicate (5 - r.level.label.length) ' ') ++ r.level.label ++ " " ++
    r.target ++ ": " ++ r.line

end FillFeed.Log
