import FillFeed.ConnectionState
import FillFeed.Fill.Basic
import FillFeed.Text.Quoted

/-!
# Metrics

The client counts what it does. A `Metric` is a counter with its labels, and a `Recorder` holds the
counts and the last published connection state; `Recorder.lines` gives them in the text format of
the metrics endpoint.
-/

namespace FillFeed

/-- How a frame was classified. -/
inductive FrameKind where
  | keepalive
  | control
  | execution
  | dropped
  deriving DecidableEq

/-- The label of a class of frames. -/
def FrameKind.label : FrameKind → String
  | .keepalive => "keepalive"
  | .control => "control"
  | .execution => "execution"
  | .dropped => "dropped"

/-- Why a key was issued. -/
inductive IssueReason where
  | cacheMiss
  | reissue
  deriving DecidableEq

namespace IssueReason

/-- The label of a reason. -/
def label : IssueReason → String
  | .cacheMiss => "cache_miss"
  | .reissue => "reissue"

/-- The name of a reason as a constant. -/
def name : IssueReason → String
  | .cacheMiss => "CacheMiss"
  | .reissue => "Reissue"

end IssueReason

/-- A counter. -/
inductive Metric where
  | framesReceived (kind : FrameKind)
  | executionsForwarded (market : Market) (side : Side)
  | handlerErrors
  | connectAttempts
  | connectFailures (reason : String)
  | approvalKeysIssued (reason : IssueReason)
  deriving DecidableEq

namespace Metric

/-- The name of a counter. -/
def name : Metric → String
  | .framesReceived _ => "kis_stream_frames_received_total"
  | .executionsForwarded .. => "kis_stream_executions_forwarded_total"
  | .handlerErrors => "kis_stream_handler_errors_total"
  | .connectAttempts => "kis_stream_connect_attempts_total"
  | .connectFailures _ => "kis_stream_connect_failures_total"
  | .approvalKeysIssued _ => "kis_stream_approval_keys_issued_total"

/-- The labels of a counter and their values. -/
def labels : Metric → List (String × String)
  | .framesReceived kind => [("kind", kind.label)]
  | .executionsForwarded market side => [("market", market.label), ("side", side.label)]
  | .handlerErrors => []
  | .connectAttempts => []
  | .connectFailures reason => [("reason", reason)]
  | .approvalKeysIssued reason => [("reason", reason.label)]

/-- The name and the labels of a counter in the text format. -/
def series (m : Metric) : String :=
  match m.labels with
  | [] => m.name
  | ls =>
    m.name ++ "\x7b" ++
      String.intercalate "," (ls.map fun (label, value) => label ++ "=\"" ++ value ++ "\"") ++
      "\x7d"

end Metric

/-- The counts so far, and the published connection state. -/
structure Recorder where
  counts : List (Metric × Nat)
  state : Option ConnectionState

namespace Recorder

/-- Nothing recorded yet. -/
def empty : Recorder := ⟨[], none⟩

/-- The count of a counter. -/
def get (r : Recorder) (m : Metric) : Nat := (r.counts.lookup m).getD 0

/-- Counts with one of them raised. -/
def raise (m : Metric) : List (Metric × Nat) → List (Metric × Nat)
  | [] => [(m, 1)]
  | (other, n) :: rest => if m = other then (m, n + 1) :: rest else (other, n) :: raise m rest

/-- One more of something. -/
def count (r : Recorder) (m : Metric) : Recorder := { r with counts := raise m r.counts }

/-- A connection state is published. -/
def publish (r : Recorder) (s : ConnectionState) : Recorder := { r with state := some s }

/-- The name of the published connection state. -/
def stateSeries : String := "kis_stream_connection_state"

/-- What was recorded, line by line in the text format, sorted. -/
def lines (r : Recorder) : List String :=
  let counters := r.counts.map fun (m, n) => m.series ++ " " ++ Text.decimalNat n
  let gauges := r.state.toList.map fun s => stateSeries ++ " " ++ Text.decimalNat s.gauge
  (counters ++ gauges).mergeSort fun a b => decide (a ≤ b)

end Recorder

end FillFeed
