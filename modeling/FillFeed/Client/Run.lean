import FillFeed.Client.Connect
import FillFeed.Client.Listen

/-!
# Running the feed

`Run` is where a call that keeps the feed running stands. It connects and listens in turns until it
cannot connect any more or the client is stopped; a client that was stopped has not failed.
-/

namespace FillFeed.Client

/-- Where a call that keeps the feed running stands. -/
inductive Run where
  | connecting (c : Connect)
  | listening (l : Listen)
  | judging (cause : ClientError)
  | finished (result : Except ClientError Unit)

namespace Run

/-- What a step of a call leads to. -/
structure Outcome where
  shared : Shared
  next : Run
  effects : List Effect

/-- The beginning of a call. -/
def start (cfg : Config) : Run := .connecting (Connect.start cfg)

/-- How the feed goes on after a step of connecting. -/
def afterConnect : Connect → Run
  | .finished (.ok ()) => .listening .taking
  | .finished (.error .stopped) => .finished (.ok ())
  | .finished (.error e) => .finished (.error e)
  | c => .connecting c

/-- How the feed goes on after a step of listening. -/
def afterListen : Listen → Run
  | .finished (.ok ()) => .finished (.ok ())
  | .finished (.error e) => .judging e
  | l => .listening l

/-- What is told when listening ends well. -/
def listenEffects : Listen → List Effect
  | .finished (.ok ()) => [.noted .listenerStopped]
  | _ => []

/-- Takes a call on with a happening. -/
def advance (cfg : Config) (shared : Shared) : Run → Happening → Option Outcome
  | .connecting c, h =>
    (c.advance cfg shared h).map fun o => ⟨o.shared, afterConnect o.next, o.effects⟩
  | .listening l, h =>
    (l.advance cfg shared h).map fun o =>
      ⟨o.shared, afterListen o.next, o.effects ++ listenEffects o.next⟩
  | .judging e, .proceed =>
    if shared.stopped then some ⟨shared, .finished (.ok ()), []⟩
    else some ⟨shared, start cfg, [.noted (.listenerFailed e)]⟩
  | _, _ => none

end Run

end FillFeed.Client
