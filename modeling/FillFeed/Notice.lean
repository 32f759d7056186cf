import FillFeed.Client.Error
import FillFeed.Json.Writer
import FillFeed.Log
import FillFeed.Metrics

/-!
# Notices

A `Notice` is something that the client has to tell. Each is written to the log as one record
(`Notice.record`), with the severity, the wording and the values that belong to it.
-/

namespace FillFeed

/-- Something that the client has to tell. -/
inductive Notice where
  | keyCached
  | cachedKeyBlank
  | noCachedKey
  | cacheReadFailed (cause : CacheError)
  | keyIssued (reason : IssueReason)
  | cacheWriteFailed (cause : CacheError)
  | stateChanged (before after : ConnectionState)
  | connecting (url : String) (attempt allowed : Nat)
  | attemptFailed (cause : ClientError) (attempt : Nat)
  | keyRejected (cause : Rejection)
  | reissueFailed (cause : IssuanceError)
  | retrying (delay : Duration)
  | acknowledged (subscription : Subscription)
  | subscribed (streams encrypted : Nat)
  | closeFailed (cause : TransportError)
  | closeTimedOut (limit : Duration)
  | listenerCancelled
  | keepaliveTimeout (silence idle : Duration)
  | closedByServer
  | frameSkipped (length : Nat)
  | keepaliveEchoed
  | controlReceived (value : Json)
  | executionReceived (fill : Fill)
  | handlerFailed (cause : HandlerError)
  | listenerStopped
  | listenerFailed (cause : ClientError)
  | clientStopped

namespace Notice

open Log

/-- The part of the program that keeps the connection. -/
def clientTarget : String := "kis_execution_stream::infrastructure::kis::client"

/-- The part of the program that obtains approval keys. -/
def approvalTarget : String := "kis_execution_stream::application::services::approval_key_manager"

/-- The record of a notice. -/
def record : Notice → Record
  | .keyCached => ⟨.debug, approvalTarget, "Using cached approval key", []⟩
  | .cachedKeyBlank =>
    ⟨.debug, approvalTarget, "Cached approval key is blank, treating as miss", []⟩
  | .noCachedKey => ⟨.debug, approvalTarget, "No cached approval key", []⟩
  | .cacheReadFailed cause =>
    ⟨.warn, approvalTarget, "Approval key cache read failed, treating as miss",
      [.plain "error" cause.message]⟩
  | .keyIssued reason =>
    ⟨.info, approvalTarget, "Issued new approval key", [.plain "reason" reason.name]⟩
  | .cacheWriteFailed cause =>
    ⟨.warn, approvalTarget, "Failed to cache approval key", [.plain "error" cause.message]⟩
  | .stateChanged before after =>
    ⟨.debug, clientTarget, "Connection state change",
      [.quoted "from" before.label, .quoted "to" after.label]⟩
  | .connecting url attempt allowed =>
    ⟨.info, clientTarget, "Connecting to execution stream",
      [.plain "url" url, .nat "attempt" attempt, .nat "max_attempts" allowed]⟩
  | .attemptFailed cause attempt =>
    ⟨.warn, clientTarget, "Execution stream connection attempt failed",
      [.plain "error" cause.message, .nat "attempt" attempt]⟩
  | .keyRejected cause =>
    ⟨.warn, clientTarget, "Approval key rejected, forcing reissue",
      [.plain "stream_id" cause.streamId, .plain "message_code" cause.code]⟩
  | .reissueFailed cause =>
    ⟨.warn, clientTarget, "Approval key reissue failed", [.plain "error" cause.message]⟩
  | .retrying delay =>
    ⟨.info, clientTarget, "Retrying execution stream connection", [.nat "delay_ms" delay.millis]⟩
  | .acknowledged s =>
    ⟨.info, clientTarget, "Subscription acknowledged",
      [.plain "stream_id" s.streamId, .quoted "market" s.market.label]⟩
  | .subscribed streams encrypted =>
    ⟨.info, clientTarget, "Execution stream subscribed",
      [.nat "streams" streams, .nat "encrypted_streams" encrypted]⟩
  | .closeFailed cause =>
    ⟨.debug, clientTarget, "Transport close failed", [.plain "error" cause.message]⟩
  | .closeTimedOut limit =>
    ⟨.debug, clientTarget, "Transport close timed out", [.nat "timeout_ms" limit.millis]⟩
  | .listenerCancelled => ⟨.debug, clientTarget, "Listener cancelled", []⟩
  | .keepaliveTimeout silence idle =>
    ⟨.warn, clientTarget, "Keepalive timeout",
      [.nat "elapsed_secs" silence.secs, .nat "idle_secs" idle.secs]⟩
  | .closedByServer => ⟨.info, clientTarget, "Execution stream closed by server", []⟩
  | .frameSkipped length =>
    ⟨.debug, clientTarget, "Skipping undecodable frame", [.nat "len" length]⟩
  | .keepaliveEchoed => ⟨.trace, clientTarget, "Echoed keepalive", []⟩
  | .controlReceived value =>
    ⟨.debug, clientTarget, "Control frame", [.plain "control" value.write]⟩
  | .executionReceived fill =>
    ⟨.debug, clientTarget, "Execution received",
      [.plain "stream_id" fill.streamId, .plain "symbol" fill.symbol,
       .quoted "side" fill.side.label]⟩
  | .handlerFailed cause =>
    ⟨.error, clientTarget, "Execution handler failed", [.plain "error" cause.message]⟩
  | .listenerStopped => ⟨.info, clientTarget, "Execution stream listener stopped", []⟩
  | .listenerFailed cause =>
    ⟨.warn, clientTarget, "Execution stream listener failed, reconnecting",
      [.plain "error" cause.message]⟩
  | .clientStopped => ⟨.info, clientTarget, "Execution stream client stopped", []⟩

end Notice

end FillFeed
