import FillFeed.EnvFile.Assignment
import FillFeed.EnvFile.Lines
import FillFeed.Settings.Lookup

/-!
# Loading variables files

`EnvFile.load` gives the variables of a file that have no value yet the value in the file, up to the
first line that is not well-formed. `EnvFile.loadNearest` finds the file: the nearest one on the way
up from a directory, and one of the directories above it when that fails. No value of a variable
holds a zero, and a file that would give one is not loaded to its end.
-/

namespace FillFeed

/-- The variables after one of them was given a value, unless it has one. There are none when the
value holds a zero. -/
def Lookup.offer? (lookup : Lookup) (name value : String) : Option Lookup :=
  match lookup name with
  | some _ => some lookup
  | none =>
    if '\x00' ∈ value.toList then none
    else some fun n => (lookup n).or (Lookup.ofEntry (name ++ "=" ++ value) n)

/-- A variable that has a value keeps it. -/
theorem Lookup.offer?_of_some {lookup after : Lookup} {name value n v : String}
    (h : lookup n = some v) (ha : lookup.offer? name value = some after) : after n = some v := by
  rw [offer?] at ha
  split at ha
  · obtain rfl := Option.some.inj ha
    exact h
  · split at ha
    · exact absurd ha (by simp)
    · obtain rfl := Option.some.inj ha
      simp [h]

namespace EnvFile

/-- The variables while a file is loaded, and the values that its own lines gave. -/
structure Loading where
  lookup : Lookup
  assigned : List (List Char × List Char)

/-- What a name stands for in a value: the variable's value, else the last one that the file gave,
else nothing. -/
def Loading.meaning (l : Loading) (name : List Char) : List Char :=
  match l.lookup (String.ofList name) with
  | some value => value.toList
  | none => (l.assigned.lookup name).getD []

/-- What a line does. -/
def Loading.apply? (l : Loading) : Statement → Option Loading
  | .nothing => some l
  | .assign name value =>
    (l.lookup.offer? (String.ofList name) (String.ofList value)).map fun lookup =>
      ⟨lookup, (name, value) :: l.assigned⟩

/-- How the loading of a file ends: at its end, before a line that is not well-formed, or at a value
that no variable can have. -/
inductive Outcome where
  | complete (lookup : Lookup)
  | faulty (lookup : Lookup)
  | impossible

/-- The variables after a file was loaded. -/
def Outcome.lookup? : Outcome → Option Lookup
  | .complete lookup | .faulty lookup => some lookup
  | .impossible => none

/-- Loads lines. -/
def loadLines (l : Loading) : List (Option (List Char)) → Outcome
  | [] => .complete l.lookup
  | none :: _ => .faulty l.lookup
  | some line :: rest =>
    match statement? l.meaning line with
    | none => .faulty l.lookup
    | some s =>
      match l.apply? s with
      | none => .impossible
      | some l => loadLines l rest

/-- The character that may stand at the start of a file and means nothing. -/
def byteOrderMark : Char := Char.ofNat 0xFEFF

/-- Loads the text of a file. -/
def load (lookup : Lookup) (text : String) : Outcome :=
  let body := match text.toList with
    | c :: cs => if c = byteOrderMark then cs else c :: cs
    | [] => []
  loadLines ⟨lookup, []⟩ (lines body)

/-- What stands under the name of the file in a directory. -/
inductive Entry where
  | absent
  | folder
  | file (text : String)
  deriving DecidableEq

/-- The nearest file among the entries on the way up. -/
def nearest? : List Entry → Option String
  | [] => none
  | .file text :: _ => some text
  | _ :: rest => nearest? rest

/-- The nearest entry of any kind on the way up, as a file if it is one. -/
def firstPresent : List Entry → Option String
  | [] => none
  | .absent :: rest => firstPresent rest
  | .folder :: _ => none
  | .file text :: _ => some text

/-- Loads the nearest file on the way up from a directory. When there is none, or it is not
well-formed, what is first found above the directory is loaded, as far as that goes. -/
def loadNearest (lookup : Lookup) (entries : List Entry) : Option Lookup :=
  let fallback (lookup : Lookup) : Option Lookup :=
    match firstPresent entries.tail with
    | none => some lookup
    | some text => (load lookup text).lookup?
  match (nearest? entries).map (load lookup) with
  | none => fallback lookup
  | some (.complete lookup) => some lookup
  | some (.faulty lookup) => fallback lookup
  | some .impossible => none

/-- Loading lines keeps every value that a variable has. -/
theorem loadLines_of_some {l : Loading} {n v : String} (h : l.lookup n = some v)
    (ls : List (Option (List Char))) :
    ∀ after ∈ (loadLines l ls).lookup?, after n = some v := by
  induction ls generalizing l with
  | nil => simp [loadLines, Outcome.lookup?, h]
  | cons line rest ih =>
    cases line with
    | none => simp [loadLines, Outcome.lookup?, h]
    | some line =>
      rw [loadLines]
      split
      · simp [Outcome.lookup?, h]
      · rename_i s _
        split
        · simp [Outcome.lookup?]
        · rename_i next hn
          refine ih ?_
          cases s with
          | nothing =>
            obtain rfl := Option.some.inj hn
            exact h
          | assign name value =>
            obtain ⟨after, ha, rfl⟩ := Option.map_eq_some_iff.1 hn
            exact Lookup.offer?_of_some h ha

end EnvFile

end FillFeed
