import FillFeed.Client.Shared

/-!
# Stopping

`Stop` is where a call that stops the client stands. It signals all other tasks, enters the
terminal state, closes a session that nobody listens to yet, and lets go of the cache.
-/

namespace FillFeed.Client

/-- Where a call that stops the client stands. -/
inductive Stop where
  | signalling
  | publishing
  | taking
  | closing (transport : TransportId)
  | releasing
  | finished

namespace Stop

/-- What a step of a call leads to. -/
structure Outcome where
  shared : Shared
  next : Stop
  effects : List Effect

/-- Lets go of the cache. -/
def release (shared : Shared) (effects : List Effect) : Outcome :=
  ⟨shared, .releasing, effects ++ [.began .releaseCache]⟩

/-- Takes a call on with a happening. -/
def advance (cfg : Config) (shared : Shared) : Stop → Happening → Option Outcome
  | .signalling, .proceed => some ⟨shared.stop, .publishing, []⟩
  | .publishing, .proceed =>
    let (shared, effects) := shared.shutDown
    some ⟨shared, .taking, effects⟩
  | .taking, .proceed =>
    match shared.take with
    | (shared, none) => some (release shared [])
    | (shared, some s) => some ⟨shared, .closing s.transport, [.began (.close s.transport)]⟩
  | .closing _, .reply (.closed result) _ => some (release shared (closeNotices result))
  | .closing _, .expired => some (release shared [.noted (.closeTimedOut cfg.closeTimeout)])
  | .releasing, .reply .cacheReleased _ => some ⟨shared, .finished, [.noted .clientStopped]⟩
  | _, _ => none

end Stop

end FillFeed.Client
