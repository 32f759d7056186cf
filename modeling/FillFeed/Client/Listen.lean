import FillFeed.Client.Shared

/-!
# Listening

`Listen` is where a call that listens stands. It takes the parked session and then waits for
whatever comes first: the signal to stop, a tick of the keepalive timer, or a frame. Keepalive
frames are sent back as they came, fills go to the handler, and everything else is only counted. A
listener closes its transport before it ends, whatever the reason.
-/

namespace FillFeed.Client

/-- Where a call that listens stands. -/
inductive Listen where
  | taking
  | starting (s : Session)
  | polling (s : Session) (k : Keepalive)
  | pinging (s : Session) (k : Keepalive)
  | echoing (s : Session) (k : Keepalive)
  | handling (s : Session) (k : Keepalive) (fill : Fill)
  | closing (transport : TransportId) (result : Except ClientError Unit)
  | crashed (cause : Crash)
  | finished (result : Except ClientError Unit)

namespace Listen

/-- What a step of a call leads to. -/
structure Outcome where
  shared : Shared
  next : Listen
  effects : List Effect

/-- Moments are kept up to here. -/
def lastMoment : Duration := ⟨twoPow 63 * 1000000000 - 1⟩

/-- What keeps a timer from being set up that is first due after one interval, if anything. -/
def timerCrash? (interval now : Duration) : Option Crash :=
  if lastMoment.nanos < now.nanos + interval.nanos then some .momentOverflow
  else if interval.nanos = 0 then some .zeroPeriod
  else none

/-- Waits for what comes next. -/
def poll (shared : Shared) (s : Session) (k : Keepalive) (effects : List Effect) : Outcome :=
  ⟨shared, .polling s k, effects ++ [.began (.receive s.transport)]⟩

/-- Closes the transport and ends with a result. -/
def close (shared : Shared) (s : Session) (result : Except ClientError Unit)
    (effects : List Effect) : Outcome :=
  ⟨shared, .closing s.transport result, effects ++ [.began (.close s.transport)]⟩

/-- Deals with the bytes of a frame. -/
def dispatch (shared : Shared) (s : Session) (k : Keepalive) (raw : List UInt8)
    (effects : List Effect) : Outcome :=
  match s.codec.parse? raw with
  | none =>
    poll shared s k
      (effects ++ [.counted (.framesReceived .dropped), .noted (.frameSkipped raw.length)])
  | some (.keepalive text) =>
    ⟨shared, .echoing s k,
      effects ++ [.counted (.framesReceived .keepalive), .began (.sendText s.transport text)]⟩
  | some (.control value) =>
    poll shared s k
      (effects ++ [.counted (.framesReceived .control), .noted (.controlReceived value)])
  | some (.execution fill) =>
    ⟨shared, .handling s k fill,
      effects ++ [.counted (.framesReceived .execution), .noted (.executionReceived fill),
        .began (.handle fill)]⟩

/-- The end of a call, after its transport is closed: a failure is told and counted. -/
def conclude (shared : Shared) (result : Except ClientError Unit) (effects : List Effect) :
    Outcome :=
  match result with
  | .ok () => ⟨shared, .finished (.ok ()), effects⟩
  | .error e =>
    let (shared, changes) := shared.setState .disconnected
    ⟨shared, .finished (.error e), effects ++ changes ++ [.counted (.connectFailures e.reason)]⟩

/-- Takes a call on with a happening. -/
def advance (cfg : Config) (shared : Shared) : Listen → Happening → Option Outcome
  | .taking, .proceed =>
    match shared.take with
    | (shared, none) => some ⟨shared, .finished (.error .notConnected), []⟩
    | (shared, some s) => some ⟨shared, .starting s, []⟩
  | .starting s, .tick now =>
    match timerCrash? cfg.keepalive.interval now with
    | some cause => some ⟨shared, .crashed cause, []⟩
    | none => some (poll shared s (Keepalive.start now) [])
  | .polling s _, .cancelled =>
    if shared.stopped then some (close shared s (.ok ()) [.noted .listenerCancelled]) else none
  | .polling s k, .tick now =>
    match k.tick cfg.keepalive now with
    | .ping => some ⟨shared, .pinging s k, [.began (.sendPing s.transport)]⟩
    | .giveUp silence =>
      some (close shared s (.error (.keepaliveTimeout silence))
        [.noted (.keepaliveTimeout silence (k.idle now))])
  | .polling s k, .reply (.received (.ok (some frame))) now =>
    let took := [Effect.took s.transport frame]
    match frame with
    | .pong => some (poll shared s (k.heard now) took)
    | .text text => some (dispatch shared s (k.heard now) (Utf8.encode text) took)
    | .binary bytes => some (dispatch shared s (k.heard now) bytes took)
  | .polling s _, .reply (.received (.ok none)) _ =>
    some (close shared s (.error .closed) [.noted .closedByServer])
  | .polling s _, .reply (.received (.error e)) _ =>
    some (close shared s (.error (.transport e)) [])
  | .pinging s k, .reply (.sent (.ok ())) now => some (poll shared s (k.pinged now) [])
  | .pinging s _, .reply (.sent (.error e)) _ => some (close shared s (.error (.transport e)) [])
  | .echoing s k, .reply (.sent (.ok ())) _ => some (poll shared s k [.noted .keepaliveEchoed])
  | .echoing s _, .reply (.sent (.error e)) _ => some (close shared s (.error (.transport e)) [])
  | .handling s k fill, .reply (.handled (.ok ())) _ =>
    some (poll shared s k [.counted (.executionsForwarded fill.market fill.side)])
  | .handling s k _, .reply (.handled (.error e)) _ =>
    some (poll shared s k [.counted .handlerErrors, .noted (.handlerFailed e)])
  | .closing _ result, .reply (.closed closed) _ =>
    some (conclude shared result (closeNotices closed))
  | .closing _ result, .expired =>
    some (conclude shared result [.noted (.closeTimedOut cfg.closeTimeout)])
  | _, _ => none

end Listen

end FillFeed.Client
