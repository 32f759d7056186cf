import FillFeed.Client.System
import FillFeed.Rehearsal.Cast

/-!
# The scene of a rehearsal

A `Scene` is the client with its cast at one moment of a clock that only moves when everything
waits. Every call that begins and every notice goes into its log, with the moment and the connection
state.
-/

namespace FillFeed.Rehearsal

open Client

/-- What the log of a rehearsal holds. -/
inductive Entry where
  | called (call : Call)
  | noted (notice : Notice)

/-- An entry with the moment and the connection state at which it was made. -/
structure Stamped where
  moment : Nat
  state : ConnectionState
  entry : Entry

/-- A client with its cast at one moment; the log has its newest entry first. -/
structure Scene where
  config : Config
  now : Nat
  cast : Cast
  shared : Shared
  recorder : Recorder
  log : List Stamped

namespace Scene

/-- The entry that an effect makes in the log: waiting for frames makes none. -/
def entry? : Effect → Option Entry
  | .began (.receive _) => none
  | .began call => some (.called call)
  | .noted notice => some (.noted notice)
  | _ => none

/-- The scene after some effects. -/
def observe (s : Scene) (effects : List Effect) : Scene :=
  let entries := (effects.filterMap entry?).map fun e => ⟨s.now, s.shared.state, e⟩
  { s with recorder := s.recorder.observeAll effects, log := entries.reverse ++ s.log }

/-- The call that begins with some effects. -/
def called? (effects : List Effect) : Option Call :=
  effects.findSome? fun
    | .began call => some call
    | _ => none

/-- The scene after a step: what is shared, what is seen, and the call that begins. -/
def advance (s : Scene) (shared : Shared) (effects : List Effect) : Scene × Option Flight :=
  let s := { s with shared }.observe effects
  match called? effects with
  | none => (s, none)
  | some call =>
    let (cast, flight) := s.cast.begin s.now call
    ({ s with cast }, some flight)

/-- The scene after a call got its answer. -/
def answer (s : Scene) (flight : Flight) : Scene × Reply :=
  let (cast, reply) := s.cast.finish flight.pending
  ({ s with cast }, reply)

/-- Whether a moment that may not come has come. -/
def reached (s : Scene) : Option Nat → Bool
  | none => false
  | some moment => moment ≤ s.now

/-- The moment after a duration. -/
def after (s : Scene) (d : Duration) : Nat := s.now + d.millis

end Scene

/-- The clock that keepalive looks at stands still in a rehearsal. -/
def frozen : Duration := .zero

/-- A call that stops the client, with the call it waits for and how long it does. -/
structure Stopper where
  stop : Stop
  flight : Option Flight
  limit : Option Nat

namespace Stopper

/-- The beginning of a call that stops the client. -/
def start : Stopper := ⟨.signalling, none, none⟩

/-- Whether the call has returned. -/
def isDone (a : Stopper) : Bool :=
  match a.stop with
  | .finished => true
  | _ => false

/-- Takes the call on with a happening. -/
def meet (s : Scene) (a : Stopper) (h : Happening) : Option (Scene × Stopper) :=
  (a.stop.advance s.config s.shared h).map fun o =>
    let (s, flight) := s.advance o.shared o.effects
    let limit := match o.next with
      | .closing _ => some (s.after s.config.closeTimeout)
      | _ => none
    (s, ⟨o.next, flight, limit⟩)

/-- What the call can do at the present moment. -/
def step (s : Scene) (a : Stopper) : Option (Scene × Stopper) :=
  match a.flight with
  | none => meet s a .proceed
  | some flight =>
    if s.reached flight.due then
      let (s, reply) := s.answer flight
      meet s a (.reply reply frozen)
    else if s.reached a.limit then meet s a .expired
    else none

/-- The moments at which the call can go on. -/
def deadlines (a : Stopper) : List Nat := (a.flight.bind (·.due)).toList ++ a.limit.toList

end Stopper

end FillFeed.Rehearsal
