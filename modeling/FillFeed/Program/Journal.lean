import FillFeed.Log.Filter
import FillFeed.Notice
import FillFeed.Settings.Basic
import FillFeed.Program.Surroundings

/-!
# The journal of the program

The journal is the log of one run of the program: of the records it is given it keeps those that
its filter admits. The records that the program itself makes are here too.
-/

namespace FillFeed.Program

open Log

/-- The records that were written, the newest first. -/
structure Journal where
  filter : Filter
  written : List Record

namespace Journal

/-- Nothing written yet. -/
def empty (filter : Filter) : Journal := ⟨filter, []⟩

/-- Writes a record if the filter admits it. -/
def write (j : Journal) (r : Record) : Journal :=
  if j.filter.admits r then { j with written := r :: j.written } else j

/-- Writes some records. -/
def writeAll (j : Journal) (rs : List Record) : Journal := rs.foldl write j

/-- What was written, in its order. -/
def records (j : Journal) : List Record := j.written.reverse

/-- Whatever is written is admitted by the filter. -/
theorem admits_of_mem_write {j : Journal} {r s : Record}
    (h : ∀ t ∈ j.written, j.filter.admits t = true)
    (hs : s ∈ (j.write r).written) : j.filter.admits s = true := by
  simp only [write] at hs
  split at hs
  · rename_i hr
    rcases List.mem_cons.1 hs with rfl | hs
    · exact hr
    · exact h s hs
  · exact h s hs

end Journal

/-- The target of the program's own records. -/
def target : String := "kis_execution_stream"

/-- The first record of a run. -/
def started : Record := ⟨.info, target, "Starting KIS execution stream", []⟩

/-- The last record of a run. -/
def ended : Record := ⟨.info, target, "KIS execution stream stopped", []⟩

/-- What is told of the settings. -/
def introduction (s : Settings) : List Record :=
  [⟨.info, target, "Configuration loaded",
      [.quoted "environment" s.environment.label, .plain "subscriber" s.subscriberKey,
       .nat "max_reconnect_attempts" s.connection.maxAttempts,
       .plain "reconnect_jitter" s.connection.jitter.toText, .nat "metrics_port" s.metricsPort]⟩,
   ⟨.debug, target, "Endpoints",
      [.plain "websocket_url" s.websocketUrl, .plain "rest_url" s.restBaseUrl,
       .plain "cache_key" s.cacheKey]⟩]

/-- Metrics are served on a port. -/
def serving (port : Nat) : Record :=
  ⟨.info, target, "Metrics endpoint listening",
    [.plain "addr" ("0.0.0.0:" ++ Text.decimalNat port)]⟩

/-- A signal came. -/
def received : Signal → Record
  | .interrupt => ⟨.info, target, "Received Ctrl+C, initiating shutdown", []⟩
  | .terminate => ⟨.info, target, "Received SIGTERM, initiating shutdown", []⟩

/-- The feed ended with an error. -/
def terminated (cause : ClientError) : Record :=
  ⟨.error, target, "Execution stream terminated", [.plain "error" cause.message]⟩

/-- A key is asked for at an address. -/
def requesting (url : String) : Record :=
  ⟨.debug, "kis_execution_stream::infrastructure::kis::approval", "Requesting approval key",
    [.plain "url" url]⟩

/-- The connection to the cache was let go of. -/
def released (key : String) : Record :=
  ⟨.debug, "kis_execution_stream::infrastructure::cache",
    "Released approval key cache connection", [.plain "key" key]⟩

end FillFeed.Program
