import FillFeed.Log
import FillFeed.Log.Pattern
import FillFeed.Numeric.Binary64
import FillFeed.Text.Alphanumeric
import FillFeed.Text.Blank
import FillFeed.Text.Fields

/-!
# Directives of log filters

A `Log.Directive` says how much is written of what comes from targets that start with a text, of
spans with a name, or of what has certain values. `Directive.read` reads one, for example
`server=info`, `debug` or `server[request\x7bid\x7d]=trace`.
-/

namespace FillFeed.Log

/-- How much is written: nothing, or the records up to a level. -/
abbrev Verbosity := Option Level

namespace Verbosity

/-- Whether records of a level are written. -/
def admits (v : Verbosity) (level : Level) : Bool :=
  match v with
  | none => false
  | some most => level.rank ≤ most.rank

/-- Everything is written. -/
def full : Verbosity := some .trace

/-- The verbosities by rank. -/
def ofRank? : Nat → Option Verbosity
  | 0 => some none
  | 1 => some (some .error)
  | 2 => some (some .warn)
  | 3 => some (some .info)
  | 4 => some (some .debug)
  | 5 => some (some .trace)
  | _ => none

/-- The verbosity that a text names, in any case, or gives by its rank. -/
def read? (cs : List Char) : Option Verbosity :=
  match Text.unsigned? 6 (String.ofList cs) with
  | some n => ofRank? n
  | none =>
    match String.ofList (cs.map Text.asciiLower) with
    | "off" => some none
    | "error" => some (some .error)
    | "warn" => some (some .warn)
    | "info" => some (some .info)
    | "debug" => some (some .debug)
    | "trace" => some (some .trace)
    | _ => none

end Verbosity

/-- A condition on what is written: it has a value of this name, and perhaps one that matches. -/
structure FieldTest where
  name : String
  isMatched : Bool
  deriving DecidableEq

/-- How much is written of what a directive is about. -/
structure Directive where
  target : Option String
  span : Option String
  fields : List FieldTest
  verbosity : Verbosity
  deriving DecidableEq

/-- Why a text is no directive: it is not well-formed, or reading it parts a character. -/
inductive DirectiveError where
  | malformed
  | partedCharacter
  deriving DecidableEq

namespace Directive

/-- The directive about everything, which leaves nothing out. -/
def everything : Directive := ⟨none, none, [], .full⟩

/-- The directive about everything. -/
def overall (level : Level) : Directive := { everything with verbosity := some level }

/-- The directive for all targets that start with a text. -/
def about (target : String) (level : Level) : Directive :=
  { everything with target := some target, verbosity := some level }

/-- The start of a text of so many bytes. -/
def takeBytes? : Nat → List Char → Option (List Char)
  | 0, _ => some []
  | _ + 1, [] => none
  | n + 1, c :: cs =>
    if c.utf8Size ≤ n + 1 then (takeBytes? (n + 1 - c.utf8Size) cs).map (c :: ·) else none

/-- The rest of a text after so many bytes. -/
def dropBytes? : Nat → List Char → Option (List Char)
  | 0, cs => some cs
  | _ + 1, [] => none
  | n + 1, c :: cs => if c.utf8Size ≤ n + 1 then dropBytes? (n + 1 - c.utf8Size) cs else none

/-- What is taken and what is left are the whole. -/
theorem takeBytes?_append_dropBytes? {n : Nat} {cs start rest : List Char}
    (hs : takeBytes? n cs = some start) (hr : dropBytes? n cs = some rest) :
    start ++ rest = cs := by
  induction cs generalizing n start with
  | nil =>
    cases n with
    | zero => simp_all [takeBytes?, dropBytes?]
    | succ n => simp [takeBytes?] at hs
  | cons c cs ih =>
    cases n with
    | zero => simp_all [takeBytes?, dropBytes?]
    | succ n =>
      rw [takeBytes?] at hs
      rw [dropBytes?] at hr
      split at hs
      · rename_i h
        rw [if_pos h] at hr
        obtain ⟨part, hp, rfl⟩ := Option.map_eq_some_iff.1 hs
        rw [List.cons_append, ih hp hr]
      · exact absurd hs (by simp)

/-- The rest of a text after so many bytes, which must not part a character. -/
def after (cs : List Char) (first : Nat) : Except DirectiveError (List Char) :=
  match dropBytes? first cs with
  | some rest => .ok rest
  | none => .error .partedCharacter

/-- The bytes of a text between two places, which must not part a character. -/
def between (cs : List Char) (first last : Nat) : Except DirectiveError (List Char) := do
  match takeBytes? (last - first) (← after cs first) with
  | some part => .ok part
  | none => .error .partedCharacter

/-- Whether a value can be looked for: a truth value, a number, or a pattern. -/
def isValue (cs : List Char) : Bool :=
  let s := String.ofList cs
  (Text.unsigned? (twoPow 64) s).isSome || (Binary64.read? s).isSome || Pattern.isWellFormed cs

/-- The condition that a text denotes: a name, and perhaps a value after an equals sign. -/
def fieldTest (cs : List Char) : Except DirectiveError FieldTest :=
  let name := cs.takeWhile (· ≠ '=')
  match cs.drop name.length with
  | [] => if cs = [] then .error .malformed else .ok ⟨String.ofList name, false⟩
  | _ :: rest =>
    if isValue (rest.takeWhile (· ≠ '=')) then .ok ⟨String.ofList name, true⟩ else .error .malformed

/-- Where the reading of a directive stands: before it, in a word, in the name of a span, in a
condition, after the conditions, after the bracket, or in the verbosity. What is read begins at a
place, counted in bytes. -/
inductive Reading where
  | start
  | word
  | span (first : Nat)
  | field (first : Nat)
  | fields
  | closed
  | level (first : Nat)

/-- Whether a directive can begin with a character. -/
def canBegin (c : Char) : Bool := c = '-' || c = ':' || c = '_' || Text.isAlphanumeric c

/-- Reads the character at a place. The characters are those of the text without the blanks at its
ends, but what is read is cut off the text `raw` as it stands, at the same distance from its
start. -/
def next (raw : List Char) (d : Directive) (place : Nat) (c : Char) :
    Reading → Except DirectiveError (Reading × Directive)
  | .start =>
    if c = '[' then .ok (.span (place + 1), d)
    else if canBegin c then .ok (.word, d)
    else .error .malformed
  | .word => do
    if c = '=' then
      .ok (.level (place + 1), { d with target := String.ofList (← between raw 0 place) })
    else if c = '[' then
      .ok (.span (place + 1), { d with target := String.ofList (← between raw 0 place) })
    else .ok (.word, d)
  | .span first => do
    if c = ']' then
      .ok (.closed, { d with span := String.ofList (← between raw first place) })
    else if c = '\x7b' then
      let name ← between raw first place
      .ok (.field (place + 1),
        { d with span := if name = [] then none else some (String.ofList name) })
    else .ok (.span first, d)
  | .field first => do
    if c = '\x7d' then
      let test ← fieldTest (← between raw first place)
      .ok (.fields, { d with fields := d.fields ++ [test] })
    else .ok (.field first, d)
  | .fields => if c = ']' then .ok (.closed, d) else .error .malformed
  | .closed => if c = '=' then .ok (.level (place + 1), d) else .error .malformed
  | .level first => .ok (.level first, d)

/-- The directive at the end of its text. A word alone is a verbosity, or else a target of which
everything is written; no verbosity after an equals sign stands for everything. -/
def finish (raw : List Char) (d : Directive) : Reading → Except DirectiveError Directive
  | .word =>
    match Verbosity.read? raw with
    | some v => .ok { d with verbosity := v }
    | none => .ok { d with target := some (String.ofList raw) }
  | .level first => do
    let cs ← after raw first
    if cs = [] then .ok d
    else match Verbosity.read? cs with
      | some v => .ok { d with verbosity := v }
      | none => .error .malformed
  | .closed => .ok d
  | _ => .error .malformed

/-- Reads the characters from a place on. -/
def readFrom (raw : List Char) : (place : Nat) → Reading → Directive → List Char →
    Except DirectiveError Directive
  | _, r, d, [] => finish raw d r
  | place, r, d, c :: cs => do
    let (r, d) ← next raw d place c r
    readFrom raw (place + c.utf8Size) r d cs

/-- The directive that a text denotes. -/
def read (raw : List Char) : Except DirectiveError Directive :=
  readFrom raw 0 .start everything (Text.trimChars raw)

end Directive

end FillFeed.Log
