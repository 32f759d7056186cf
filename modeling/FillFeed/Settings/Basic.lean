import FillFeed.Credential
import FillFeed.Stream
import FillFeed.Numeric.Binary64
import FillFeed.Supervision.Retry
import FillFeed.Supervision.Keepalive

/-!
# Settings

`Settings` is everything that can be configured. The addresses follow from the environment unless
they are given.
-/

namespace FillFeed

/-- Timing of a connection and of retries. -/
structure ConnectionSettings where
  pingInterval : Duration
  pingTimeout : Duration
  closeTimeout : Duration
  connectTimeout : Duration
  ackTimeout : Duration
  reconnectDelay : Duration
  maxAttempts : Nat
  jitter : Binary64
  deriving DecidableEq

namespace ConnectionSettings

/-- The timing when nothing is configured. -/
def default : ConnectionSettings where
  pingInterval := .ofSecs 30
  pingTimeout := .ofSecs 30
  closeTimeout := .ofSecs 5
  connectTimeout := .ofSecs 10
  ackTimeout := .ofSecs 10
  reconnectDelay := .ofSecs 5
  maxAttempts := 5
  jitter := Binary64.zero

/-- The plan for retries. -/
def retryPlan (c : ConnectionSettings) : Retry.Plan :=
  (Retry.Plan.of c.reconnectDelay c.maxAttempts).withJitter c.jitter

/-- The plan for pings. -/
def keepalivePlan (c : ConnectionSettings) : Keepalive.Plan := ⟨c.pingInterval, c.pingTimeout⟩

end ConnectionSettings

/-- Everything that can be configured. -/
structure Settings where
  environment : Environment
  credentials : Credentials
  subscriberKey : String
  streamUrl : Option String
  restUrl : Option String
  connection : ConnectionSettings
  cacheUrl : String
  cacheKey : String
  reissueCodes : List String
  metricsPort : Nat
  deriving DecidableEq

namespace Settings

/-- The address of the live feed. -/
def liveStreamUrl : String := "ws://ops.koreainvestment.com:21000"

/-- The address of the paper feed. -/
def paperStreamUrl : String := "ws://ops.koreainvestment.com:31000"

/-- The base address of the live service that issues keys. -/
def liveRestUrl : String := "https://openapi.koreainvestment.com:9443"

/-- The base address of the paper service that issues keys. -/
def paperRestUrl : String := "https://openapivts.koreainvestment.com:29443"

/-- The address of the cache when none is configured. -/
def defaultCacheUrl : String := "redis://127.0.0.1:6379"

/-- The name of the approval key in the cache when none is configured. -/
def defaultCacheKey : String := "kis:websocket:approval_key"

/-- The message codes that call for a new approval key when none are configured. -/
def defaultReissueCodes : List String := ["OPSP0011", "OPSP8996"]

/-- The address of the feed. -/
def websocketUrl (s : Settings) : String :=
  s.streamUrl.getD (if s.environment.isLive then liveStreamUrl else paperStreamUrl)

/-- The base address of the service that issues keys. -/
def restBaseUrl (s : Settings) : String :=
  s.restUrl.getD (if s.environment.isLive then liveRestUrl else paperRestUrl)

/-- The streams to subscribe to. -/
def subscriptions (s : Settings) : List Subscription :=
  Subscription.all s.environment s.subscriberKey

end Settings

/-- Why settings are not accepted. -/
inductive SettingsError where
  | missing (name : String)
  | empty (name : String)
  | invalid (name reason : String)
  deriving DecidableEq

namespace SettingsError

/-- The wording of an error. -/
def message : SettingsError → String
  | .missing v => "missing required environment variable: " ++ v
  | .empty v => "environment variable " ++ v ++ " cannot be empty"
  | .invalid v reason => "invalid value for " ++ v ++ ": " ++ reason

/-- The description of an error. -/
def describe : SettingsError → String
  | .missing v => "MissingEnvVar(" ++ Text.quote v ++ ")"
  | .empty v => "EmptyValue(" ++ Text.quote v ++ ")"
  | .invalid v reason =>
    "InvalidValue \x7b key: " ++ Text.quote v ++ ", reason: " ++ Text.quote reason ++ " \x7d"

end SettingsError

end FillFeed
