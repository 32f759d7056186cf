import FillFeed.Cache.Server
import FillFeed.Collaborator

/-!
# A connection to the cache

`Cache.Connection` keeps the approval key of this program under one key of a cache server. Once
it was released no command reaches the server any more.
-/

namespace FillFeed.Cache

/-- A connection to a cache server, which may have been released. -/
structure Connection where
  key : String
  connected : Bool
  server : Server

namespace Connection

/-- A new connection. -/
def toServer (server : Server) (key : String) : Connection := ⟨key, true, server⟩

/-- The description of a connection. -/
def describe (c : Connection) : String :=
  "RedisApprovalKeyStore \x7b key: " ++ Text.quote c.key ++ ", connected: " ++
    (if c.connected then "true" else "false") ++ " \x7d"

/-- Sends a command and reads the answer, unless the connection was released. -/
def send {α : Type} (c : Connection) (command : Command) (read : Answer → Except String α) :
    Connection × Except CacheError α :=
  if c.connected then
    let (server, answer) := c.server.ask command
    ({ c with server }, (read answer).mapError .command)
  else (c, .error .released)

/-- The value that is kept, if there is one. -/
def get (c : Connection) : Connection × Except CacheError (Option String) :=
  c.send (.get c.key) Answer.value

/-- Keeps a value for a while, in whole seconds. -/
def set (c : Connection) (value : String) (lifetime : Duration) :
    Connection × Except CacheError Unit :=
  c.send (.setFor c.key lifetime.secs value) Answer.done

/-- Lets go of the connection. -/
def release (c : Connection) : Connection := { c with connected := false }

/-- A released connection answers no request. -/
theorem send_release {α : Type} (c : Connection) (command : Command)
    (read : Answer → Except String α) :
    c.release.send command read = (c.release, .error .released) := rfl

/-- Letting go twice is letting go once. -/
theorem release_release (c : Connection) : c.release.release = c.release := rfl

end Connection

end FillFeed.Cache
