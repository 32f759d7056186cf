import FillFeed.Log.Directive

/-!
# Log filters

A `Log.Filter` decides which records are written. Its rules give a verbosity to all records whose
target starts with a text and that have certain values; the closest of them decides, and a record
that no rule is about is not written. `Filter.ofText` takes the rules from a list of directives, and
`Filter.add` puts another one in, in place of the one about the same records.
-/

namespace FillFeed.Log

/-- How much is written of the records that a rule is about. -/
structure Rule where
  target : Option String
  names : List String
  verbosity : Verbosity
  deriving DecidableEq

namespace Rule

/-- Whether two rules are about the same records. -/
def rivals (a b : Rule) : Bool := a.target = b.target && a.names = b.names

/-- Whether a rule is about a record. -/
def covers (rule : Rule) (r : Record) : Bool :=
  rule.names.all r.names.contains &&
    match rule.target with
    | none => true
    | some start => start.toList.isPrefixOf r.target.toList

/-- How closely the target is given. -/
def closeness (rule : Rule) : Nat :=
  match rule.target with
  | none => 0
  | some start => start.length + 1

/-- Whether a rule is closer than another: by its target, then by how many names it asks for, then
by the names. -/
def isCloser (a b : Rule) : Bool :=
  b.closeness < a.closeness ||
    (a.closeness = b.closeness &&
      (b.names.length < a.names.length ||
        (a.names.length = b.names.length && b.names < a.names)))

end Rule

/-- The rule of a directive, unless it is about spans or asks for what values are: records of this
program belong to no span, and values are only known in spans. -/
def Directive.rule? (d : Directive) : Option Rule :=
  if d.span.isSome || d.fields.any (·.isMatched) then none
  else some ⟨d.target, d.fields.map (·.name), d.verbosity⟩

/-- The rules that are in force, no two of them about the same records. -/
structure Filter where
  rules : List Rule

namespace Filter

/-- No rules. -/
def empty : Filter := ⟨[]⟩

/-- Puts a rule in, in place of the one about the same records. -/
def addRule (f : Filter) (rule : Rule) : Filter := ⟨f.rules.filter (!rule.rivals ·) ++ [rule]⟩

/-- Puts the rule of a directive in, if it has one. -/
def add (f : Filter) (d : Directive) : Filter :=
  match d.rule? with
  | some rule => f.addRule rule
  | none => f

/-- The closer of two rules, the first where neither is. -/
def closer : Option Rule → Rule → Option Rule
  | none, b => some b
  | some a, b => some (if b.isCloser a then b else a)

/-- The rule that decides about a record. -/
def deciding? (f : Filter) (r : Record) : Option Rule :=
  (f.rules.filter (·.covers r)).foldl closer none

/-- Whether a record is written. -/
def admits (f : Filter) (r : Record) : Bool :=
  match f.deciding? r with
  | none => false
  | some rule => rule.verbosity.admits r.level

/-- The directives in a list with commas between. Texts that denote none are passed over; there is
no answer when reading one parts a character. -/
def directives? : List (List Char) → Option (List Directive)
  | [] => some []
  | text :: rest =>
    match Directive.read text with
    | .ok d => (directives? rest).map (d :: ·)
    | .error .malformed => directives? rest
    | .error .partedCharacter => none

/-- The filter of a list of directives with commas between. Without any directive errors are
written. -/
def ofText (list : String) : Option Filter :=
  (directives? (Text.splitChars ',' list.toList)).map fun ds =>
    (if ds = [] then [Directive.overall .error] else ds).foldl add empty

/-- The directives that are always in force: this program tells what it does, and the libraries
below it only what goes wrong. -/
def standing : List Directive :=
  [.about "kis_execution_stream" .info, .about "tungstenite" .warn,
   .about "tokio_tungstenite" .warn, .about "reqwest" .warn, .about "hyper" .warn,
   .about "h2" .warn]

/-- The filter of this program, with the directives that its surroundings ask for. -/
def ofRequest (request : Option String) : Option Filter :=
  (ofText (request.getD "")).map (standing.foldl add ·)

/-- A rule that was put in is in force. -/
theorem mem_addRule (f : Filter) (rule : Rule) : rule ∈ (f.addRule rule).rules := by simp [addRule]

/-- Rules about other records stay as they are. -/
theorem mem_addRule_iff {f : Filter} {a b : Rule} (h : a.rivals b = false) :
    b ∈ (f.addRule a).rules ↔ b ∈ f.rules := by
  have hne : b ≠ a := by
    rintro rfl
    simp [Rule.rivals] at h
  simp [addRule, h, hne]

end Filter

end FillFeed.Log
