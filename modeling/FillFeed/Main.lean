import FillFeed.EnvFile.Tree
import FillFeed.Program.Session

/-!
# The command line

`main` runs the program with the variables of its process and the variables files of its working
directory and above, prints the log, and reports a failure. It reaches no network.
-/

namespace FillFeed.Main

/-- What stands under the name of the variables file in a directory. -/
def entryIn (directory : List String) : IO EnvFile.Entry := do
  try
    let path := "/" ++ String.intercalate "/" (directory ++ [EnvFile.fileName])
    return .file (← IO.FS.readFile path)
  catch
    | .noFileOrDirectory .. => return .absent
    | _ => return .folder

/-- What the program finds around it. -/
def surroundings : IO Program.Surroundings := do
  let block ← try IO.FS.readBinFile "/proc/self/environ" catch _ => pure ByteArray.empty
  let directory := (Text.split '/' (← IO.currentDir).toString).filter (· ≠ "")
  let entries ← (EnvFile.upward directory).mapM entryIn
  return {
    lookup := Lookup.ofBlock block.toList
    entries
    cacheAt := fun _ => none
    listen := fun _ => .error "no network"
    draw := fun _ => 0
    alarm := none }

end FillFeed.Main

/-- Runs the program. -/
def main : IO UInt32 := do
  let report := FillFeed.Program.run (← FillFeed.Main.surroundings)
  for r in report.log do IO.println r.text
  for line in report.complaints do IO.eprintln line
  return report.code.toUInt32
