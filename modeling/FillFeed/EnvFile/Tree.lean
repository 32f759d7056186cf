import FillFeed.EnvFile.Load

/-!
# Variables files in a tree of files

What stands under the name of the variables file in a directory and in those above it, in a tree
that is given by its files.
-/

namespace FillFeed.EnvFile

/-- The name of a variables file. -/
def fileName : String := ".env"

/-- A directory and those above it, the nearest first. -/
def upward (directory : List String) : List (List String) :=
  (List.range (directory.length + 1)).reverse.map directory.take

/-- What stands under the name of the variables file in a directory. A path on which other files
lie is a folder. -/
def entryIn (files : List (List String × String)) (directory : List String) : Entry :=
  let path := directory ++ [fileName]
  match files.lookup path with
  | some text => .file text
  | none => if files.any fun (p, _) => path.isPrefixOf p then .folder else .absent

/-- What stands under the name of the variables file in a directory and in those above it. -/
def entriesUpward (files : List (List String × String)) (directory : List String) : List Entry :=
  (upward directory).map (entryIn files)

/-- The way up begins with the directory and ends at the top. -/
theorem length_upward (directory : List String) :
    (upward directory).length = directory.length + 1 := by
  simp [upward]

end FillFeed.EnvFile
