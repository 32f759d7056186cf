import FillFeed.Credential
import FillFeed.Fill.Basic
import FillFeed.Text.Quoted

/-!
# Collaborators

What the client needs from outside: a cache for the approval key, an issuer of new keys, a
connector that opens transports, and a handler for fills. `Call` lists the requests it makes,
`Reply` the answers, and each collaborator has its own causes of failure.
-/

namespace FillFeed

/-- Why the cache did not answer. -/
inductive CacheError where
  | connection (message : String)
  | command (message : String)
  | released
  deriving DecidableEq

/-- The wording of an error. -/
def CacheError.message : CacheError → String
  | .connection m => "cache connection error: " ++ m
  | .command m => "cache command failed: " ++ m
  | .released => "cache connection already released"

/-- Why no key was issued. -/
inductive IssuanceError where
  | http (message : String)
  | status (code : Nat) (body : String)
  | decode (message : String)
  | missingField
  deriving DecidableEq

/-- The wording of an error. -/
def IssuanceError.message : IssuanceError → String
  | .http m => "approval key request failed: " ++ m
  | .status code body =>
    "approval key endpoint returned " ++ Text.decimalNat code ++ ": " ++ body
  | .decode m => "approval key response could not be decoded: " ++ m
  | .missingField => "approval key response is missing the `approval_key` field"

/-- Why a transport failed. -/
inductive TransportError where
  | connect (message : String)
  | connectTimeout
  | send (message : String)
  | receive (message : String)
  | close (message : String)
  deriving DecidableEq

/-- The wording of an error. -/
def TransportError.message : TransportError → String
  | .connect m => "connect failed: " ++ m
  | .connectTimeout => "connect timed out"
  | .send m => "send failed: " ++ m
  | .receive m => "receive failed: " ++ m
  | .close m => "close failed: " ++ m

/-- Why a fill was not handled. -/
inductive HandlerError where
  | channelClosed
  | failed (message : String)
  deriving DecidableEq

/-- The wording of an error. -/
def HandlerError.message : HandlerError → String
  | .channelClosed => "execution channel closed"
  | .failed m => "execution handler failed: " ++ m

/-- A message that arrives on a transport. -/
inductive WireFrame where
  | text (s : String)
  | binary (bytes : List UInt8)
  | pong
  deriving DecidableEq

/-- Transports are numbered in the order in which they are opened, from one on. -/
abbrev TransportId := Nat

/-- What the client asks of its collaborators. -/
inductive Call where
  | readCache
  | writeCache (key : ApprovalKey) (lifetime : Duration)
  | releaseCache
  | issueKey
  | openTransport (url : String)
  | sendText (transport : TransportId) (text : String)
  | sendPing (transport : TransportId)
  | receive (transport : TransportId)
  | close (transport : TransportId)
  | handle (fill : Fill)
  deriving DecidableEq

/-- What a collaborator answers. The end of a transport is a frame that does not come. -/
inductive Reply where
  | cacheRead (result : Except CacheError (Option String))
  | cacheWritten (result : Except CacheError Unit)
  | cacheReleased
  | keyIssued (result : Except IssuanceError ApprovalKey)
  | opened (result : Except TransportError Unit)
  | sent (result : Except TransportError Unit)
  | received (result : Except TransportError (Option WireFrame))
  | closed (result : Except TransportError Unit)
  | handled (result : Except HandlerError Unit)

end FillFeed
