import FillFeed.Cache.Address
import FillFeed.Cache.Server
import FillFeed.EnvFile.Load
import FillFeed.Log
import FillFeed.Supervision.Retry

/-!
# The surroundings of the program

`Program.Surroundings` is what the program finds around it: variables, variables files in its
working directory and above, cache servers, ports, chance, and a signal that may come.
-/

namespace FillFeed

/-- The variables of a process, in a block of entries that each end with a zero byte. Entries that
are no text are left out. -/
def Lookup.ofBlock (block : List UInt8) : Lookup :=
  Lookup.ofEntries ((Text.splitChars '\x00' (block.map fun b => Char.ofNat b.toNat)).filterMap
    fun entry => Utf8.decode? (entry.map fun c => UInt8.ofNat c.toNat))

namespace Program

/-- A request from outside to end. -/
inductive Signal where
  | interrupt
  | terminate
  deriving DecidableEq

/-- A signal that comes once the log shows a text. -/
structure Alarm where
  signal : Signal
  after : String

/-- What the program finds around it. -/
structure Surroundings where
  lookup : Lookup
  entries : List EnvFile.Entry
  cacheAt : Cache.Address → Option Cache.Server
  listen : Nat → Except String Unit
  draw : Nat → Retry.Draw
  alarm : Option Alarm

namespace Alarm

/-- Whether a log that was written so far calls for the signal. -/
def isDue (a : Alarm) (written : List Log.Record) : Bool :=
  written.any fun r => Text.containsChars a.after.toList r.text.toList

end Alarm

end Program

end FillFeed
