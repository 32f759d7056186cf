import FillFeed.Numeric.Duration

/-!
# Keepalive

A listener pings the server at regular intervals. `Keepalive` remembers when something was last
heard and since when a ping is unanswered; `Keepalive.tick` decides what to do when the interval is
over. Times are durations since a fixed origin.
-/

namespace FillFeed

/-- How often to ping, and how long a ping may stay unanswered. -/
structure Keepalive.Plan where
  interval : Duration
  patience : Duration
  deriving DecidableEq

/-- When something was last heard, and when the earliest unanswered ping was sent. -/
structure Keepalive where
  heardAt : Duration
  pingedAt : Option Duration
  deriving DecidableEq

namespace Keepalive

/-- The plan that is followed when nothing else is said. -/
def Plan.default : Plan := ⟨.ofSecs 30, .ofSecs 30⟩

/-- What to do when the interval is over. -/
inductive Action where
  | ping
  | giveUp (silence : Duration)
  deriving DecidableEq

/-- The state of a fresh connection. -/
def start (now : Duration) : Keepalive := ⟨now, none⟩

/-- Something was heard. -/
def heard (_ : Keepalive) (now : Duration) : Keepalive := ⟨now, none⟩

/-- A ping was sent; an earlier unanswered one stays the one that counts. -/
def pinged (k : Keepalive) (now : Duration) : Keepalive :=
  { k with pingedAt := some (k.pingedAt.getD now) }

/-- Whether a ping is unanswered. -/
def isWaiting (k : Keepalive) : Bool := k.pingedAt.isSome

/-- The time that has passed between two moments. -/
def between (earlier later : Duration) : Duration := ⟨later.nanos - earlier.nanos⟩

/-- The time since something was last heard. -/
def idle (k : Keepalive) (now : Duration) : Duration := between k.heardAt now

/-- What to do when the interval is over: give up on a ping that has been unanswered for too long,
and otherwise ping. -/
def tick (k : Keepalive) (plan : Plan) (now : Duration) : Action :=
  match k.pingedAt with
  | some sent =>
    if plan.patience.nanos ≤ (between sent now).nanos then .giveUp (between sent now) else .ping
  | none => .ping

end Keepalive

end FillFeed
