import FillFeed.Numeric.Duration
import FillFeed.Text.Quoted
import FillFeed.Text.Utf8

/-!
# The protocol of the cache

`Cache.Command` is what a cache server is asked, and `Cache.Answer` what it can say. `Answer.value`
reads an answer as a value that may be absent, and `Answer.done` as a mere confirmation.
-/

namespace FillFeed.Cache

/-- What a cache server is asked: for a value, or to keep one for some seconds. -/
inductive Command where
  | get (key : String)
  | setFor (key : String) (seconds : Nat) (value : String)
  deriving DecidableEq

/-- The words of a command. -/
def Command.words : Command → List String
  | .get key => ["GET", key]
  | .setFor key seconds value => ["SETEX", key, Text.decimalNat seconds, value]

/-- What a cache server can say. -/
inductive Answer where
  | absent
  | bulk (bytes : List UInt8)
  | whole (n : Int)
  | status (text : String)
  | failure (line : String)
  | several (texts : List String)
  deriving DecidableEq

namespace Answer

/-- The kinds of failures by the word that a server begins with. -/
def failureKinds : List (String × String) :=
  [("ERR", "ResponseError"), ("EXECABORT", "ExecAbortError"), ("LOADING", "BusyLoadingError"),
   ("NOSCRIPT", "NoScriptError"), ("MOVED", "Moved"), ("ASK", "Ask"), ("TRYAGAIN", "TryAgain"),
   ("CLUSTERDOWN", "ClusterDown"), ("CROSSSLOT", "CrossSlot"), ("MASTERDOWN", "MasterDown"),
   ("READONLY", "ReadOnly"), ("NOTBUSY", "NotBusy"), ("NOSUB", "NoSub")]

/-- The wording of a failure that a server reports: the word it begins with tells the kind. -/
def failureText (line : String) : String :=
  let word := String.ofList (line.toList.takeWhile (· ≠ ' '))
  let detail : Option String :=
    match line.toList.dropWhile (· ≠ ' ') with
    | [] => none
    | _ :: rest => some (String.ofList rest)
  match failureKinds.lookup word, detail with
  | some kind, some detail => "An error was signalled by the server - " ++ kind ++ ": " ++ detail
  | some kind, none => "An error was signalled by the server- " ++ kind
  | none, some detail => word ++ ": " ++ detail
  | none, none => word ++ ": Unknown extension error encountered"

/-- The wording of a failure to read several texts as one value. -/
def severalText (texts : List String) : String :=
  "Response was of incompatible type - TypeError: \"Response type not string compatible.\" " ++
    "(response was array([" ++
    String.intercalate ", " (texts.map fun t => "simple-string(" ++ Text.quote t ++ ")") ++ "]))"

/-- The value that an answer gives, or why it gives none: a value must be one text. -/
def value : Answer → Except String (Option String)
  | .absent => .ok none
  | .bulk bytes =>
    match Utf8.decode? bytes with
    | some text => .ok (some text)
    | none => .error "Invalid UTF-8- TypeError"
  | .whole (.ofNat n) => .ok (some (Text.decimalNat n))
  | .whole (.negSucc n) => .ok (some ("-" ++ Text.decimalNat (n + 1)))
  | .status text => .ok (some text)
  | .failure line => .error (failureText line)
  | .several texts => .error (severalText texts)

/-- Whether an answer confirms a command: whatever is no failure does. -/
def done : Answer → Except String Unit
  | .failure line => .error (failureText line)
  | _ => .ok ()

/-- The bytes of a text are read back as that text. -/
theorem value_bulk_encode (s : String) : (bulk (Utf8.encode s)).value = .ok (some s) := by
  simp [value, Utf8.decode?_encode]

end Answer

end FillFeed.Cache
