import FillFeed.Handshake.Rejection
import FillFeed.Collaborator
import FillFeed.Supervision.Retry

/-!
# Errors of the client

A `ClientError` is why a call of the client fails. Besides its wording it has a short label, under
which failures are counted.
-/

namespace FillFeed

/-- Why a call of the client fails. -/
inductive ClientError where
  | credential (cause : IssuanceError)
  | rejected (cause : Rejection)
  | notConnected
  | exhausted (attempts : Nat)
  | transport (cause : TransportError)
  | encode (detail : String)
  | ackTimeout (streamId : String) (limit : Duration)
  | keepaliveTimeout (silence : Duration)
  | closed
  | stopped
  deriving DecidableEq

namespace ClientError

/-- The wording of an error. -/
def message : ClientError → String
  | .credential cause => "approval key issuance failed: " ++ cause.message
  | .rejected cause => cause.message
  | .notConnected => "not connected"
  | .exhausted n => "connection not established after " ++ Text.decimalNat n ++ " attempts"
  | .transport cause => "transport error: " ++ cause.message
  | .encode detail => "failed to encode subscription request: " ++ detail
  | .ackTimeout streamId limit =>
    "no subscription ack for " ++ streamId ++ " within " ++ limit.toText
  | .keepaliveTimeout silence => "keepalive timeout after " ++ silence.toText
  | .closed => "connection closed"
  | .stopped => "client stopped"

/-- The label under which an error is counted. -/
def reason : ClientError → String
  | .credential _ => "credential"
  | .rejected _ => "subscription_ack"
  | .notConnected => "not_connected"
  | .exhausted _ => "exhausted"
  | .transport _ => "transport"
  | .encode _ => "encode"
  | .ackTimeout .. => "ack_timeout"
  | .keepaliveTimeout _ => "keepalive_timeout"
  | .closed => "closed"
  | .stopped => "stopped"

/-- The rejection behind an error, if its code is one of those that call for a new key. -/
def reissueCause? (codes : List String) : ClientError → Option Rejection
  | .rejected cause => if cause.hasCode codes then some cause else none
  | _ => none

end ClientError

/-- What breaks a call of the client off at once, leaving everything as it is: a timer or a pause
that cannot be set up. -/
inductive Client.Crash where
  | zeroPeriod
  | momentOverflow
  | noPause (cause : Retry.DrawError)
  deriving DecidableEq

/-- The wording of a crash. -/
def Client.Crash.message : Client.Crash → String
  | .zeroPeriod => "`period` must be non-zero."
  | .momentOverflow => "overflow when adding duration to instant"
  | .noPause cause => cause.message

end FillFeed
