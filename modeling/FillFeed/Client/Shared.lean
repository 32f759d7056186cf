import FillFeed.Client.Config
import FillFeed.Effect
import FillFeed.Frame.Codec

/-!
# What the tasks of a client share

The calls of one client run side by side and share a connection state, a slot for a subscribed
session that nobody listens to yet, and the signal to stop. Each function here is one atomic access
to them.
-/

namespace FillFeed.Client

/-- An open connection with every subscription confirmed. -/
structure Session where
  transport : TransportId
  codec : Codec

/-- What the tasks of a client share. -/
structure Shared where
  state : ConnectionState
  slot : Option Session
  stopped : Bool
  opened : Nat

namespace Shared

/-- A client that has not done anything yet. -/
def initial : Shared := ⟨.disconnected, none, false, 0⟩

/-- The description of a client. -/
def describe (s : Shared) (cfg : Config) : String :=
  "ExecutionStreamClient \x7b url: " ++ Text.quote cfg.url ++ ", state: " ++ s.state.name ++
    ", stopped: " ++ (if s.stopped then "true" else "false") ++ ", .. \x7d"

/-- Whether a session is in the slot. -/
def hasSession (s : Shared) : Bool := s.slot.isSome

/-- Changes the connection state; the terminal state stays, and so does a state that is the same. -/
def setState (s : Shared) (next : ConnectionState) : Shared × List Effect :=
  if s.state.isTerminal ∨ s.state = next then (s, [])
  else ({ s with state := next }, [.noted (.stateChanged s.state next), .published next])

/-- Puts a session into the slot and gives what was there. -/
def park (s : Shared) (session : Session) : Shared × Option Session :=
  ({ s with slot := some session }, s.slot)

/-- Empties the slot and gives what was there. -/
def take (s : Shared) : Shared × Option Session := ({ s with slot := none }, s.slot)

/-- Signals all tasks to stop. -/
def stop (s : Shared) : Shared := { s with stopped := true }

/-- Enters the terminal state. -/
def shutDown (s : Shared) : Shared × List Effect :=
  if s.state.isTerminal then (s, [])
  else ({ s with state := .shuttingDown }, [.published .shuttingDown])

/-- Numbers a transport that was opened. -/
def addTransport (s : Shared) : Shared × TransportId :=
  ({ s with opened := s.opened + 1 }, s.opened + 1)

end Shared

/-- What a task meets at a step: its own next action, a random draw, an answer to the call it waits
for, the end of the time it allows for that, the end of a pause, a tick of the keepalive timer, or
the signal to stop. Times are durations since a fixed origin. -/
inductive Happening where
  | proceed
  | drawn (draw : Retry.Draw)
  | reply (reply : Reply) (now : Duration)
  | expired
  | elapsed
  | tick (now : Duration)
  | cancelled

/-- What is told about the closing of a transport. -/
def closeNotices : Except TransportError Unit → List Effect
  | .ok () => []
  | .error e => [.noted (.closeFailed e)]

end FillFeed.Client
