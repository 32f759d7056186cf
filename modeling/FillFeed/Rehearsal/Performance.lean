import FillFeed.Rehearsal.Scene

/-!
# Performing a step of a rehearsal

A `Performance` is one call on the client and, if it is asked for, a call that stops the client a
while after. `Performance.step` is the next thing that happens at the present moment or, when
everything waits, the moving of the clock to the next moment at which something can. Where the
client could go either way it prefers what does not wait.
-/

namespace FillFeed.Rehearsal

open Client

/-- What a task can do next: act on its own, take a random draw, set up its timer, or wait, which
the signal to stop may cut short. -/
inductive Urge where
  | acts
  | draws
  | setsTimer
  | waits (interruptible : Bool)
  | rests

/-- What a call that connects can do next. -/
def connectUrge : Connect → Urge
  | .checking .. | .announcing .. | .launching .. | .parking _ | .confirming _ | .withdrawing
  | .publishing _ => .acts
  | .deciding .. => .draws
  | .attempting .. | .pausing .. => .waits true
  | .reissuing .. | .replacing .. | .discarding _ => .waits false
  | .crashed _ | .finished _ => .rests

/-- What a call that listens can do next. -/
def listenUrge : Listen → Urge
  | .taking => .acts
  | .starting _ => .setsTimer
  | .polling .. => .waits true
  | .pinging .. | .echoing .. | .handling .. | .closing .. => .waits false
  | .crashed _ | .finished _ => .rests

/-- What a task can do next. -/
def urge : Task → Urge
  | .connect c | .run (.connecting c) => connectUrge c
  | .listen l | .run (.listening l) => listenUrge l
  | .run (.judging _) => .acts
  | .run (.finished _) => .rests
  | .stop _ => .rests

/-- Where a task stands in connecting. -/
def connecting? : Task → Option Connect
  | .connect c | .run (.connecting c) => some c
  | _ => none

/-- Where a task stands in listening. -/
def listening? : Task → Option Listen
  | .listen l | .run (.listening l) => some l
  | _ => none

/-- How long a task waits for the call it has begun, if there is a limit. -/
def patience? (cfg : Config) (t : Task) : Option Duration :=
  match connecting? t, listening? t with
  | some (.attempting _ (.opening _)), _ => some cfg.connectTimeout
  | some (.attempting _ (.acking _)), _ => some cfg.ackTimeout
  | some (.attempting _ (.abandoning ..)), _ => some cfg.closeTimeout
  | some (.replacing ..), _ => some cfg.closeTimeout
  | some (.discarding _), _ => some cfg.closeTimeout
  | _, some (.closing ..) => some cfg.closeTimeout
  | _, _ => none

/-- Whether a task reads an ack. -/
def isAcking (t : Task) : Bool :=
  match connecting? t with
  | some (.attempting _ (.acking _)) => true
  | _ => false

/-- Whether a task waits for whatever comes first on its session. -/
def isPolling (t : Task) : Bool :=
  match listening? t with
  | some (.polling ..) => true
  | _ => false

/-- The pause that a task waits for. -/
def pause? (t : Task) : Option Duration :=
  match connecting? t with
  | some (.pausing _ _ delay) => some delay
  | _ => none

/-- A task with what it waits for: a call and the limit on it, a call to stop the client that its
collaborator makes, the end of a pause, and the next tick of its timer. -/
structure Actor where
  task : Task
  flight : Option Flight
  nested : Option Stopper
  limit : Option Nat
  wake : Option Nat
  tick : Option Nat

namespace Actor

/-- A task at its beginning. -/
def start (t : Task) : Actor := ⟨t, none, none, none, none, none⟩

/-- Whether the task has nothing left to do. -/
def isDone (a : Actor) : Bool :=
  match urge a.task with
  | .rests => true
  | _ => false

/-- Takes the task on with a happening. Reading on after a frame that is no ack keeps the limit. -/
def meet (s : Scene) (a : Actor) (h : Happening) : Option (Scene × Actor) :=
  (a.task.advance s.config s.shared h).map fun o =>
    let (s, flight) := s.advance o.shared o.effects
    let limit :=
      if isAcking a.task && isAcking o.next then a.limit
      else (patience? s.config o.next).map s.after
    let wake := (pause? o.next).map s.after
    (s, { a with task := o.next, flight, nested := none, limit, wake })

/-- The tick after one that was due at `due` and comes at `now`: ticks that were missed by more
than a little are skipped. -/
def nextTick (interval due now : Nat) : Nat :=
  if due + 5 < now then now + interval - (now - due) % interval else due + interval

/-- The middle of the range of random draws. -/
def middle : Retry.Draw := ⟨twoPow 52, by decide⟩

/-- What comes of the call that the task waits for, when it has come to its end: it may have to
stop the client first. -/
def land (s : Scene) (a : Actor) (flight : Flight) : Option (Scene × Actor) :=
  let answer := let (s, reply) := s.answer flight; meet s a (.reply reply frozen)
  if flight.stops then
    match a.nested with
    | none => some (s, { a with nested := some Stopper.start })
    | some stopper =>
      if stopper.isDone then answer
      else (stopper.step s).map fun (s, stopper) => (s, { a with nested := some stopper })
  else answer

/-- The tick of the timer. -/
def ring (s : Scene) (a : Actor) (due : Nat) : Option (Scene × Actor) :=
  (meet s a (.tick frozen)).map fun (s, a) =>
    (s, { a with tick := some (nextTick s.config.keepalive.interval.millis due s.now) })

/-- What the task can do at the present moment while it waits. -/
def resume (s : Scene) (a : Actor) (interruptible : Bool) : Option (Scene × Actor) :=
  let cut := if interruptible && s.shared.stopped then meet s a .cancelled else none
  let landed := match a.flight with
    | some flight => if s.reached flight.due then land s a flight else none
    | none => none
  let expired := if s.reached a.limit then meet s a .expired else none
  let woken := if s.reached a.wake then meet s a .elapsed else none
  if isPolling a.task then
    let rung := match a.tick with
      | some due => if s.reached (some due) then ring s a due else none
      | none => none
    (cut.or rung).or landed
  else ((landed.or expired).or woken).or cut

/-- What the task can do at the present moment. -/
def step (s : Scene) (a : Actor) : Option (Scene × Actor) :=
  match urge a.task with
  | .acts => meet s a .proceed
  | .draws => meet s a (.drawn middle)
  | .setsTimer =>
    (meet s a (.tick frozen)).map fun (s, a) =>
      (s, { a with tick := some (s.after s.config.keepalive.interval) })
  | .waits interruptible => resume s a interruptible
  | .rests => none

/-- The moments at which the task can go on. -/
def deadlines (a : Actor) : List Nat :=
  (a.flight.bind (·.due)).toList ++ a.limit.toList ++ a.wake.toList ++
    (if isPolling a.task then a.tick.toList else []) ++
    (a.nested.map Stopper.deadlines).getD []

end Actor

/-- When the call that stops the client came: while the other call was running, or after it. -/
inductive StopTime where
  | during
  | after
  deriving DecidableEq

/-- One call on the client, and a call that stops it at a given moment. -/
structure Performance where
  scene : Scene
  actor : Actor
  stopAt : Option Nat
  stopper : Option Stopper
  stopTime : Option StopTime

namespace Performance

/-- The earliest of some moments that is yet to come. -/
def earliest (now : Nat) (moments : List Nat) : Option Nat :=
  (moments.filter (now < ·)).min?

/-- Whether all calls have returned. -/
def isDone (p : Performance) : Bool :=
  p.actor.isDone && (p.stopAt.isNone || (p.stopper.map Stopper.isDone).getD false)

/-- Moves the clock on to the next moment at which something can happen. -/
def wait (p : Performance) : Option Performance :=
  let moments := (if p.stopper.isNone then p.stopAt.toList else []) ++ p.actor.deadlines ++
    (p.stopper.map Stopper.deadlines).getD []
  (earliest p.scene.now moments).map fun now => { p with scene := { p.scene with now } }

/-- The next thing that happens. -/
def step (p : Performance) : Option Performance :=
  if p.stopper.isNone && p.scene.reached p.stopAt then
    some { p with
      stopper := some Stopper.start
      stopTime := some (if p.actor.isDone then .after else .during) }
  else
    match p.stopper.bind (·.step p.scene) with
    | some (scene, stopper) => some { p with scene, stopper := some stopper }
    | none =>
      match p.actor.step p.scene with
      | some (scene, actor) => some { p with scene, actor }
      | none => p.wait

/-- Goes on until all calls have returned, nothing can happen any more, or the rehearsal has taken
too many steps. -/
def finish : (fuel : Nat) → Performance → Performance
  | 0, p => p
  | fuel + 1, p =>
    if p.isDone then p
    else match p.step with
      | none => p
      | some p => finish fuel p

/-- A rehearsal takes at most so many steps. -/
def stepLimit : Nat := 10000000

end Performance

/-- How a call on the client ended. -/
inductive Ending where
  | returned (result : Except ClientError Unit)
  | crashed (cause : Crash)
  | unfinished

/-- How a task ended. -/
def ending : Task → Ending
  | .connect (.finished r) | .listen (.finished r) | .run (.finished r) => .returned r
  | .connect (.crashed cause) | .run (.connecting (.crashed cause)) => .crashed cause
  | .listen (.crashed cause) | .run (.listening (.crashed cause)) => .crashed cause
  | .stop .finished => .returned (.ok ())
  | _ => .unfinished

namespace Scene

/-- Performs a call on the client, with a call that stops it after a while if there is to be one. -/
def perform (s : Scene) (t : Task) (stopAfter : Option Nat) : Scene × Ending × Option StopTime :=
  let p := Performance.finish Performance.stepLimit
    ⟨s, Actor.start t, stopAfter.map (s.now + ·), none, none⟩
  (p.scene, ending p.actor.task, p.stopTime)

/-- Connects and subscribes. -/
def connect (s : Scene) (stopAfter : Option Nat) : Scene × Ending × Option StopTime :=
  s.perform (.connect (Connect.start s.config)) stopAfter

/-- Listens. -/
def listen (s : Scene) (stopAfter : Option Nat) : Scene × Ending × Option StopTime :=
  s.perform (.listen .taking) stopAfter

/-- Keeps the feed running. -/
def run (s : Scene) (stopAfter : Option Nat) : Scene × Ending × Option StopTime :=
  s.perform (.run (Run.start s.config)) stopAfter

/-- Stops the client. -/
def stop (s : Scene) : Scene :=
  let p := Performance.finish Performance.stepLimit
    ⟨s, Actor.start (.stop .finished), some s.now, none, none⟩
  p.scene

/-- Lets some time pass. -/
def rest (s : Scene) (millis : Nat) : Scene := { s with now := s.now + millis }

/-- The log so far, the oldest entry first, and the scene with an empty log. -/
def takeLog (s : Scene) : List Stamped × Scene := (s.log.reverse, { s with log := [] })

end Scene

end FillFeed.Rehearsal
