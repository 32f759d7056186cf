import FillFeed.Effect

/-!
# Obtaining approval keys

A key is taken from the cache where there is one, and issued otherwise. `Approval.Stage` is where a
request for a key stands between two answers of its collaborators, and `Approval.advance` takes it
on with one answer: a cache that fails or holds a blank value counts as empty, an issued key is
written to the cache, and a failure to write it does not matter.
-/

namespace FillFeed.Approval

/-- What a request for a key waits for. -/
inductive Stage where
  | reading
  | issuing (reason : IssueReason)
  | caching (key : ApprovalKey)
  deriving DecidableEq

/-- The call that a request for a key waits for. -/
def Stage.call : Stage → Call
  | .reading => .readCache
  | .issuing _ => .issueKey
  | .caching key => .writeCache key ApprovalKey.cacheLifetime

/-- How a request for a key goes on: it waits for something else, or it is answered. -/
inductive Progress where
  | waits (stage : Stage)
  | done (result : Except IssuanceError ApprovalKey)

/-- A request that prefers the cached key. -/
def get : Stage := .reading

/-- A request for a new key. -/
def reissue : Stage := .issuing .reissue

/-- Goes on to a stage, whose call begins after some effects. -/
def enter (effects : List Effect) (stage : Stage) : Progress × List Effect :=
  (.waits stage, effects ++ [.began stage.call])

/-- Takes a request for a key on with an answer. -/
def advance : Stage → Reply → Option (Progress × List Effect)
  | .reading, .cacheRead (.ok (some raw)) =>
    match ApprovalKey.parse? raw with
    | some key => some (.done (.ok key), [.noted .keyCached])
    | none => some (enter [.noted .cachedKeyBlank] (.issuing .cacheMiss))
  | .reading, .cacheRead (.ok none) => some (enter [.noted .noCachedKey] (.issuing .cacheMiss))
  | .reading, .cacheRead (.error e) =>
    some (enter [.noted (.cacheReadFailed e)] (.issuing .cacheMiss))
  | .issuing reason, .keyIssued (.ok key) =>
    some (enter [.counted (.approvalKeysIssued reason), .noted (.keyIssued reason)] (.caching key))
  | .issuing _, .keyIssued (.error e) => some (.done (.error e), [])
  | .caching key, .cacheWritten (.ok ()) => some (.done (.ok key), [])
  | .caching key, .cacheWritten (.error e) =>
    some (.done (.ok key), [.noted (.cacheWriteFailed e)])
  | _, _ => none

/-- The description of whatever obtains keys. -/
def describe : String := "ApprovalKeyManager \x7b .. \x7d"

end FillFeed.Approval
