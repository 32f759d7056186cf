import FillFeed.Address.Uri
import FillFeed.Settings.Lookup

/-!
# Telemetry

`Telemetry` says whether spans are exported, to which address and under which name. Its variables
are taken as they stand: blanks count, and an empty value is a value.
-/

namespace FillFeed

/-- Whether spans are exported, to which address and under which name. -/
structure Telemetry where
  enabled : Bool
  endpoint : String
  serviceName : String
  deriving DecidableEq

namespace Telemetry

/-- What holds when nothing is said. -/
def default : Telemetry := ⟨true, "http://localhost:4317", "kis-execution-stream"⟩

/-- What variables say: export is on unless it is turned off by the word `false` in any case. -/
def ofLookup (lookup : Lookup) : Telemetry where
  enabled := match lookup "OTEL_ENABLED" with
    | some v => v.toList.map Text.asciiLower ≠ "false".toList
    | none => default.enabled
  endpoint := (lookup "OTEL_EXPORTER_OTLP_ENDPOINT").getD default.endpoint
  serviceName := (lookup "OTEL_SERVICE_NAME").getD default.serviceName

/-- Where spans are exported to. An empty address gives way to what the variables name, first for
spans and then for everything, and otherwise to the usual address. -/
def destination (t : Telemetry) (lookup : Lookup) : String :=
  if t.endpoint ≠ "" then t.endpoint
  else ((lookup "OTEL_EXPORTER_OTLP_TRACES_ENDPOINT").or
    (lookup "OTEL_EXPORTER_OTLP_ENDPOINT")).getD default.endpoint

/-- Whether spans are to be exported to something that is no address. -/
def isMisdirected (t : Telemetry) (lookup : Lookup) : Bool :=
  t.enabled &&
    match Uri.read (t.destination lookup) with
    | .ok _ => false
    | .error _ => true

/-- What is said when spans cannot be exported. -/
def unavailable : String := "OTLP exporter unavailable, logging only"

/-- What is said at the start: only the log is left when spans cannot be exported. -/
def complaints (t : Telemetry) (lookup : Lookup) : List String :=
  if t.isMisdirected lookup then [unavailable] else []

end Telemetry

end FillFeed
