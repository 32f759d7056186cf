import FillFeed.Settings.Basic
import FillFeed.Text.Fields

/-!
# Settings from variables

`Settings.ofLookup` reads the settings from named variables. Blanks around a value do not count.
Three variables are required; every other one may be absent, blank, or of the wrong type, and its
setting then has its default. Numbers of the right type can still be out of range.
-/

namespace FillFeed

/-- The values of named variables. -/
abbrev Lookup := String → Option String

namespace Lookup

/-- The value that an entry gives a variable: the entry is the name, an equals sign and the value. A
name with an equals sign in it is a name as well. -/
def ofEntry (entry : String) : Lookup := fun name =>
  let start := name.toList ++ ['=']
  if start.isPrefixOf entry.toList then some (String.ofList (entry.toList.drop start.length))
  else none

/-- The value that the first of some entries about a variable gives it. -/
def ofEntries (entries : List String) : Lookup := fun name => entries.findSome? (ofEntry · name)

/-- The value of a variable that may be absent; a blank value is no value. -/
def optional (lookup : Lookup) (name : String) : Option String :=
  match lookup name with
  | none => none
  | some raw => if Text.trim raw = "" then none else some (Text.trim raw)

/-- The value of a variable that must be there and not be blank. -/
def required (lookup : Lookup) (name : String) : Except SettingsError String :=
  match lookup name with
  | none => .error (.missing name)
  | some raw => if Text.trim raw = "" then .error (.empty name) else .ok (Text.trim raw)

/-- A whole number below a bound. -/
def whole (lookup : Lookup) (name : String) (bound : Nat) : Option Nat :=
  (lookup.optional name).bind (Text.unsigned? bound)

/-- A number of seconds. -/
def seconds (lookup : Lookup) (name : String) (absent : Duration) : Duration :=
  ((lookup.whole name (twoPow 64)).map Duration.ofSecs).getD absent

end Lookup

namespace Settings

/-- The codes in a list with commas between, without blanks and in upper case. -/
def codeList (list : String) : List String :=
  (((Text.split ',' list).map Text.trim).filter (· != "")).map Text.uppercase

/-- The timing that the variables configure, before its ranges are checked. -/
def connectionOf (lookup : Lookup) : ConnectionSettings :=
  let d := ConnectionSettings.default
  { pingInterval := lookup.seconds "KIS_PING_INTERVAL_SECS" d.pingInterval
    pingTimeout := lookup.seconds "KIS_PING_TIMEOUT_SECS" d.pingTimeout
    closeTimeout := lookup.seconds "KIS_CLOSE_TIMEOUT_SECS" d.closeTimeout
    connectTimeout := lookup.seconds "KIS_CONNECT_TIMEOUT_SECS" d.connectTimeout
    ackTimeout := lookup.seconds "KIS_ACK_TIMEOUT_SECS" d.ackTimeout
    reconnectDelay :=
      ((lookup.whole "KIS_RECONNECT_DELAY_MS" (twoPow 64)).map Duration.ofMillis).getD
        d.reconnectDelay
    maxAttempts := (lookup.whole "KIS_MAX_RECONNECT_ATTEMPTS" (twoPow 32)).getD d.maxAttempts
    jitter := ((lookup.optional "KIS_RECONNECT_JITTER").bind Binary64.read?).getD d.jitter }

/-- The settings that the variables configure. -/
def ofLookup (lookup : Lookup) : Except SettingsError Settings := do
  let appKey ← lookup.required "KIS_APP_KEY"
  let appSecret ← lookup.required "KIS_APP_SECRET"
  let subscriberKey ← lookup.required "KIS_HTS_ID"
  let connection := connectionOf lookup
  if connection.maxAttempts = 0 then
    .error (.invalid "KIS_MAX_RECONNECT_ATTEMPTS" "must be at least 1")
  else if connection.jitter.inUnitInterval = false then
    .error (.invalid "KIS_RECONNECT_JITTER" "must be between 0 and 1")
  else
    .ok {
      environment := (lookup.optional "KIS_ENV").elim .paper Environment.ofText
      credentials := ⟨appKey, appSecret⟩
      subscriberKey
      streamUrl := lookup.optional "KIS_WS_URL"
      restUrl := lookup.optional "KIS_REST_URL"
      connection
      cacheUrl := (lookup.optional "REDIS_URL").getD defaultCacheUrl
      cacheKey := (lookup.optional "KIS_APPROVAL_KEY_CACHE_KEY").getD defaultCacheKey
      reissueCodes :=
        (lookup.optional "KIS_REISSUE_MESSAGE_CODES").elim defaultReissueCodes codeList
      metricsPort := (lookup.whole "KIS_METRICS_PORT" (twoPow 16)).getD 0 }

end Settings

end FillFeed
