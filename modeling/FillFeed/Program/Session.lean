import FillFeed.Metrics.Endpoint
import FillFeed.Program.Feed
import FillFeed.Telemetry

/-!
# A run of the program

`Program.run` is the whole program: it loads variables files, sets up the log, reads the settings,
serves metrics, connects to the cache and keeps the feed. The first of these that fails ends it, and
the `Report` says how it ended, what was logged, and what was complained of.
-/

namespace FillFeed.Program

/-- Why the program fails. -/
inductive Failure where
  | settings (cause : SettingsError)
  | endpoint (cause : EndpointError)
  | cacheUnreached
  | feed (cause : ClientError)
  deriving DecidableEq

/-- The description of a failure. A feed that fails has used up its attempts. -/
def Failure.describe : Failure → String
  | .settings cause => cause.describe
  | .endpoint cause => cause.describe
  | .cacheUnreached => "Connection"
  | .feed (.exhausted n) =>
    "ConnectionNotEstablished \x7b attempts: " ++ Text.decimalNat n ++ " \x7d"
  | .feed cause => cause.message

/-- How a run of the program ends: well, with a failure, or broken off where it stood. -/
inductive Ending where
  | well
  | failed (cause : Failure)
  | broken
  deriving DecidableEq

/-- What a run of the program comes to. -/
structure Report where
  ending : Ending
  log : List Log.Record
  warnings : List String
  commands : List Cache.Command

namespace Report

/-- The exit code. -/
def code (r : Report) : Nat :=
  match r.ending with
  | .well => 0
  | .failed _ => 1
  | .broken => 101

/-- What was complained of, a failure last. -/
def complaints (r : Report) : List String :=
  match r.ending with
  | .failed cause => r.warnings ++ ["Error: " ++ cause.describe]
  | _ => r.warnings

end Report

/-- Serves metrics on the port that the settings name, unless it is zero. -/
def serve (listen : Nat → Except String Unit) (port : Nat) (journal : Journal) :
    Except EndpointError Journal :=
  if port = 0 then .ok journal
  else match Endpoint.none.install (listen port) with
    | (_, .error cause) => .error cause
    | (_, .ok ()) => .ok (journal.write (serving port))

/-- Keeps the feed with a cache server. -/
def keepFeed (s : Surroundings) (settings : Settings) (server : Cache.Server) (journal : Journal)
    (warnings : List String) : Report :=
  let cache := Cache.Connection.toServer server settings.cacheKey
  match (Feed.start settings cache journal).run s.alarm s.draw with
  | (f, .ok ()) =>
    ⟨.well, (f.journal.write ended).records, warnings, f.cache.server.received⟩
  | (f, .error cause) =>
    ⟨.failed (.feed cause), (f.journal.writeAll [terminated cause, ended]).records, warnings,
      f.cache.server.received⟩

/-- Runs the program with its log. -/
def runLogged (s : Surroundings) (lookup : Lookup) (filter : Log.Filter)
    (warnings : List String) : Report :=
  let journal := (Journal.empty filter).write started
  match Settings.ofLookup lookup with
  | .error cause => ⟨.failed (.settings cause), journal.records, warnings, []⟩
  | .ok settings =>
    let journal := journal.writeAll (introduction settings)
    match serve s.listen settings.metricsPort journal with
    | .error cause => ⟨.failed (.endpoint cause), journal.records, warnings, []⟩
    | .ok journal =>
      match (Cache.Address.read? settings.cacheUrl).bind s.cacheAt with
      | none => ⟨.failed .cacheUnreached, journal.records, warnings, []⟩
      | some server => keepFeed s settings server journal warnings

/-- Runs the program. It breaks off when a file holds a value that no variable can have, or when the
log's directives cannot be read. -/
def run (s : Surroundings) : Report :=
  match EnvFile.loadNearest s.lookup s.entries with
  | none => ⟨.broken, [], [], []⟩
  | some lookup =>
    let warnings := (Telemetry.ofLookup lookup).complaints lookup
    match Log.Filter.ofRequest (lookup "RUST_LOG") with
    | none => ⟨.broken, [], warnings, []⟩
    | some filter => runLogged s lookup filter warnings

/-- The exit code is zero exactly when the program ends well. -/
theorem Report.code_eq_zero_iff (r : Report) : r.code = 0 ↔ r.ending = .well := by
  cases h : r.ending <;> simp [code, h]

end FillFeed.Program
