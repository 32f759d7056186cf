import FillFeed.Numeric.Binary64
import FillFeed.Numeric.Duration

/-!
# Retry budget

A `Retry.Plan` allows a number of attempts with a pause between them; a `Retry` counts the failed
ones against it. `Retry.fail` tells whether another attempt is allowed, and `Plan.pause` how long
to wait before it: the planned delay, or one drawn from the range that the jitter spans around it.
There is no range to draw from when the jitter is no number or too large.
-/

namespace FillFeed

/-- How often to try, and how long to wait in between. -/
structure Retry.Plan where
  delay : Duration
  jitter : Binary64
  attempts : Nat
  deriving DecidableEq

/-- The failed attempts so far, counted against a plan. -/
structure Retry where
  plan : Retry.Plan
  failures : Nat
  deriving DecidableEq

namespace Retry

/-- Failures are counted up to here. -/
def countLimit : Nat := twoPow 32 - 1

/-- A random draw, as a number of steps of 2^-53 from the low to the high end of a range. -/
abbrev Draw := Fin (twoPow 53 + 1)

/-- Why no pause can be drawn from a range: it is empty, or it has no finite length. -/
inductive DrawError where
  | emptyRange
  | endlessRange
  deriving DecidableEq

/-- The wording of an error. -/
def DrawError.message : DrawError → String
  | .emptyRange => "cannot sample empty range"
  | .endlessRange => "called `Result::unwrap()` on an `Err` value: NonFinite"

namespace Plan

/-- The plan with at least one attempt and no jitter. -/
def of (delay : Duration) (attempts : Nat) : Plan := ⟨delay, Binary64.zero, max 1 attempts⟩

/-- The plan with the given jitter. -/
def withJitter (p : Plan) (jitter : Binary64) : Plan := { p with jitter }

/-- The plan that is followed when nothing else is said. -/
def default : Plan := ⟨.ofSecs 5, Binary64.zero, 5⟩

/-- How far from the delay a pause may lie, in milliseconds. -/
def spread (p : Plan) : Binary64 := (Binary64.ofNat p.delay.millis).mul p.jitter

/-- Why no pause can be drawn, if so. -/
def drawError? (p : Plan) : Option DrawError :=
  if p.jitter.isAtMostZero then none
  else if p.spread = .nan then some .emptyRange
  else if (p.spread.mul (.ofNat 2)).isInfinite then some .endlessRange
  else none

/-- Whether pauses are drawn at random. -/
def isRandom (p : Plan) : Bool := !p.jitter.isAtMostZero && 0 < p.delay.millis

/-- A pause drawn from the range from `1 - jitter` to `1 + jitter` times the delay, in whole
milliseconds and never below zero. -/
def drawn (p : Plan) (draw : Draw) : Duration :=
  match p.jitter with
  | .finite _ m e =>
    let base : Int := p.delay.millis
    let unit : Int := twoPow (-e).toNat
    let spread : Int := base * m * twoPow e.toNat
    let place : Int := 2 * (draw.val : Int) - twoPow 53
    .ofMillis
      (min (twoPow 64 - 1) ((base * unit * twoPow 53 + spread * place) / (unit * twoPow 53)).toNat)
  | _ => p.delay

/-- The pause after a failure: the delay, or one around it when there is a jitter above zero. -/
def pause (p : Plan) (draw : Draw) : Except DrawError Duration :=
  match p.drawError? with
  | some e => .error e
  | none => .ok (if p.jitter.isAtMostZero then p.delay else p.drawn draw)

end Plan

/-- No failures yet. -/
def start (plan : Plan) : Retry := ⟨plan, 0⟩

/-- Whether another attempt is allowed. -/
def mayRetry (r : Retry) : Bool := r.failures < r.plan.attempts

/-- One more failure. -/
def bump (r : Retry) : Retry := { r with failures := min countLimit (r.failures + 1) }

/-- Counts a failed attempt: the pause before the next one, or nothing when the budget is spent. -/
def fail (r : Retry) (draw : Draw) : Retry × Option (Except DrawError Duration) :=
  let r := r.bump
  (r, if r.mayRetry then some (r.plan.pause draw) else none)

/-- Forgets the failures. -/
def reset (r : Retry) : Retry := { r with failures := 0 }

end Retry

end FillFeed
