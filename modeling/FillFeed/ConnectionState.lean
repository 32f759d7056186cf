/-!
# Connection states

The life of a connection, from `disconnected` over `connecting` and `subscribing` to `connected`,
back to `disconnected` on any failure, and finally to `shuttingDown`, which nothing leaves.
-/

namespace FillFeed

/-- Where the connection to the feed stands. -/
inductive ConnectionState where
  | disconnected
  | connecting
  | subscribing
  | connected
  | shuttingDown
  deriving DecidableEq, Inhabited

namespace ConnectionState

/-- The label of a state in records. -/
def label : ConnectionState → String
  | .disconnected => "disconnected"
  | .connecting => "connecting"
  | .subscribing => "subscribing"
  | .connected => "connected"
  | .shuttingDown => "shutting_down"

/-- The name of a state as a constant. -/
def name : ConnectionState → String
  | .disconnected => "Disconnected"
  | .connecting => "Connecting"
  | .subscribing => "Subscribing"
  | .connected => "Connected"
  | .shuttingDown => "ShuttingDown"

/-- The number that is published for a state. -/
def gauge : ConnectionState → Nat
  | .disconnected => 0
  | .connecting => 1
  | .subscribing => 2
  | .connected => 3
  | .shuttingDown => 4

/-- Whether nothing leaves the state. -/
def isTerminal (s : ConnectionState) : Bool := s == .shuttingDown

/-- All states. -/
def all : List ConnectionState :=
  [.disconnected, .connecting, .subscribing, .connected, .shuttingDown]

end ConnectionState

end FillFeed
