import FillFeed.Text.Blank
import FillFeed.Text.Uppercase

/-!
# Report streams

A report stream is one channel of the feed. Each `StreamKind` has an identifier in the live and in
the paper environment; a `Subscription` names one stream for one subscriber, and
`Subscription.all` lists those of an environment, the domestic one first.
-/

namespace FillFeed

/-- Whether real or simulated orders are followed. -/
inductive Environment where
  | paper
  | live
  deriving DecidableEq, Inhabited

namespace Environment

/-- The environment that a text names; whatever does not name the live one is the paper one. -/
def ofText (s : String) : Environment :=
  let word := Text.uppercase (Text.trim s)
  if word = "LIVE" ∨ word = "REAL" ∨ word = "PROD" then .live else .paper

/-- The label of an environment in records and answers. -/
def label : Environment → String
  | .paper => "paper"
  | .live => "live"

/-- The name of an environment as a constant. -/
def name : Environment → String
  | .paper => "Paper"
  | .live => "Live"

/-- Whether real orders are followed. -/
def isLive : Environment → Bool
  | .paper => false
  | .live => true

/-- All environments. -/
def all : List Environment := [.paper, .live]

end Environment

/-- The market that a stream reports on. -/
inductive Market where
  | domestic
  | overseas
  | unknown
  deriving DecidableEq, Inhabited

namespace Market

/-- The label of a market in records and in JSON. -/
def label : Market → String
  | .domestic => "domestic"
  | .overseas => "overseas"
  | .unknown => "unknown"

/-- The name of a market as a constant. -/
def name : Market → String
  | .domestic => "Domestic"
  | .overseas => "Overseas"
  | .unknown => "Unknown"

/-- All markets. -/
def all : List Market := [.domestic, .overseas, .unknown]

end Market

/-- The report streams that exist. -/
inductive StreamKind where
  | domesticFills
  | overseasFills
  deriving DecidableEq, Inhabited

namespace StreamKind

/-- All streams, in the order in which they are subscribed to. -/
def all : List StreamKind := [.domesticFills, .overseasFills]

/-- The name of a stream as a constant. -/
def name : StreamKind → String
  | .domesticFills => "DomesticFills"
  | .overseasFills => "OverseasFills"

/-- The market that a stream reports on. -/
def market : StreamKind → Market
  | .domesticFills => .domestic
  | .overseasFills => .overseas

/-- The identifier of a stream in an environment. -/
def streamId : StreamKind → Environment → String
  | .domesticFills, .live => "H0STCNI0"
  | .domesticFills, .paper => "H0STCNI9"
  | .overseasFills, .live => "H0GSCNI0"
  | .overseasFills, .paper => "H0GSCNI9"

end StreamKind

/-- One stream for one subscriber. -/
structure Subscription where
  kind : StreamKind
  streamId : String
  subscriberKey : String
  deriving DecidableEq

namespace Subscription

/-- The subscription to a stream of an environment. -/
def of (kind : StreamKind) (environment : Environment) (subscriberKey : String) : Subscription :=
  ⟨kind, kind.streamId environment, subscriberKey⟩

/-- The subscriptions to all streams of an environment. -/
def all (environment : Environment) (subscriberKey : String) : List Subscription :=
  StreamKind.all.map fun kind => of kind environment subscriberKey

/-- The market that the stream reports on. -/
def market (s : Subscription) : Market := s.kind.market

end Subscription

end FillFeed
