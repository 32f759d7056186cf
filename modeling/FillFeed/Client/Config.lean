import FillFeed.Settings.Basic

/-!
# Configuration of the client

What the client needs to know of the settings: where to connect, what to subscribe to, and the
limits and plans it follows.
-/

namespace FillFeed.Client

/-- The configuration of a client. -/
structure Config where
  url : String
  subscriptions : List Subscription
  retry : Retry.Plan
  keepalive : Keepalive.Plan
  connectTimeout : Duration
  ackTimeout : Duration
  closeTimeout : Duration
  reissueCodes : List String
  deriving DecidableEq

namespace Config

/-- The configuration with the given timing and the default codes. -/
def withConnection (url : String) (subscriptions : List Subscription) (c : ConnectionSettings) :
    Config where
  url := url
  subscriptions := subscriptions
  retry := c.retryPlan
  keepalive := c.keepalivePlan
  connectTimeout := c.connectTimeout
  ackTimeout := c.ackTimeout
  closeTimeout := c.closeTimeout
  reissueCodes := Settings.defaultReissueCodes

/-- The configuration with the default timing. -/
def of (url : String) (subscriptions : List Subscription) : Config :=
  withConnection url subscriptions ConnectionSettings.default

/-- The configuration that follows from the settings. -/
def ofSettings (s : Settings) : Config :=
  { withConnection s.websocketUrl s.subscriptions s.connection with reissueCodes := s.reissueCodes }

end Config

end FillFeed.Client
