import Mathlib
import FillFeed.Proofs.Settings.PingInterval
import FillFeed.Proofs.Task.Step

/-!
# The start of a listener

A listener that has taken its session gets into its loop exactly when a timer can be set up with the
interval between pings (`Listen.starts_or_crashes`). Where a listener stands therefore tells about
the interval, in every run of a client (`System.listeners_start`). Settings are accepted without a
look at the interval, so that some of them let no listener start (`Listen.crashes_of_zero`).
-/

namespace FillFeed

namespace Client

namespace Listen

variable {cfg : Config} {shared : Shared}

/-- A timer can be set up if and only if its interval is not zero and its first tick is not too
late. -/
lemma timerCrash?_eq_none_iff {interval now : Duration} :
    timerCrash? interval now = none ↔
      0 < interval.nanos ∧ now.nanos + interval.nanos ≤ lastMoment.nanos := by
  unfold timerCrash?
  split
  · simp only [reduceCtorEq, false_iff]
    omega
  split
  · simp only [reduceCtorEq, false_iff]
    omega
  · simp only [true_iff]
    omega

/-- A timer without a period has an interval of zero. -/
lemma interval_eq_zero_of_timerCrash? {interval now : Duration}
    (unset : timerCrash? interval now = some .zeroPeriod) : interval.nanos = 0 := by
  unfold timerCrash? at unset
  split at unset
  · cases unset
  split at unset
  · assumption
  · cases unset

/-- Where a listener can stand, given the interval between pings: it is in its loop, or closes its
transport after it, only with an interval that is not zero, and crashes for a period of zero only
with one that is. -/
def Suits (interval : Duration) : Listen → Prop
  | .polling _ _ | .pinging _ _ | .echoing _ _ | .handling _ _ _ | .closing _ _ => 0 < interval.nanos
  | .crashed .zeroPeriod => interval.nanos = 0
  | .taking | .starting _ | .crashed _ | .finished _ => True

/-- A listener that goes on still suits the interval. -/
lemma Step.suits {l : Listen} {h : Happening} {o : Outcome} (st : Step cfg shared l h o)
    (suits : l.Suits cfg.keepalive.interval) : o.next.Suits cfg.keepalive.interval := by
  cases st with
  | unconnected | took => trivial
  | @crashed _ _ cause unset =>
    cases cause with
    | zeroPeriod => exact interval_eq_zero_of_timerCrash? unset
    | _ => trivial
  | started set => exact (timerCrash?_eq_none_iff.1 set).1
  | closed | closedLate =>
    rw [conclude_next]
    trivial
  | _ => exact suits

end Listen

/-- The listener in a task. -/
def Task.listener? : Task → Option Listen
  | .listen l | .run (.listening l) => some l
  | _ => none

/-- A call that is done with connecting has a listener that is about to take the session. -/
lemma Task.listener?_afterConnect {c : Connect} {l : Listen}
    (here : (Task.run (Run.afterConnect c)).listener? = some l) : l = .taking := by
  unfold Run.afterConnect at here
  split at here
  · cases here
    rfl
  all_goals cases here

/-- A call that is still listening has the listener that it had. -/
lemma Task.listener?_afterListen {l l' : Listen}
    (here : (Task.run (Run.afterListen l)).listener? = some l') : l' = l := by
  unfold Run.afterListen at here
  split at here
  · cases here
  · cases here
  · cases here
    rfl

/-- A task whose listener suits the interval. -/
def Task.Suits (interval : Duration) (t : Task) : Prop :=
  ∀ l, t.listener? = some l → l.Suits interval

/-- A task that goes on has the listener that went on, or one that has just begun. -/
lemma Task.Step.suits {cfg : Config} {shared : Shared} {t : Task} {h : Happening}
    {o : Task.Outcome} (st : Task.Step cfg shared t h o) (suits : t.Suits cfg.keepalive.interval) :
    o.next.Suits cfg.keepalive.interval := by
  intro l here
  cases st with
  | connect st => cases here
  | stop st => cases here
  | listen st =>
    cases here
    exact st.suits (suits _ rfl)
  | run st =>
    cases st with
    | connecting st =>
      rw [listener?_afterConnect here]
      trivial
    | listening st =>
      rw [listener?_afterListen here]
      exact st.suits (suits _ rfl)
    | stopped => cases here
    | restarted => cases here

/-- The listeners of a client suit the interval all the way through a run. -/
lemma System.Steps.suits {cfg : Config} {a b : System} {seen : List Effect}
    (run : System.Steps cfg a seen b) (suits : ∀ t ∈ a.tasks, t.Suits cfg.keepalive.interval) :
    ∀ t ∈ b.tasks, t.Suits cfg.keepalive.interval := by
  induction run with
  | refl => exact suits
  | tail run step ih =>
    intro t mem
    cases step with
    | call fresh =>
      obtain old | new := List.mem_append.1 mem
      · exact ih t old
      · cases List.mem_singleton.1 new
        intro l here
        cases fresh with
        | listen =>
          cases here
          trivial
        | _ => cases here
    | act at_i goes =>
      obtain old | rfl := List.mem_or_eq_of_mem_set mem
      · exact ih t old
      · exact (Task.advance_iff.1 goes).suits (ih _ (List.mem_of_getElem? at_i))

/-- A timer for pings can be set up at a moment with this number of seconds between them. -/
def Listen.Runnable (seconds : Nat) (now : Duration) : Prop :=
  0 < seconds ∧ now.nanos + (Duration.ofSecs seconds).nanos ≤ lastMoment.nanos

/-- A timer can be set up for a number of seconds if and only if it is one to run with. -/
lemma Listen.timerCrash?_ofSecs {seconds : Nat} {now : Duration} :
    timerCrash? (.ofSecs seconds) now = none ↔ Runnable seconds now := by
  have positive : 0 < (Duration.ofSecs seconds).nanos ↔ 0 < seconds := by
    simp only [Duration.ofSecs]
    omega
  rw [timerCrash?_eq_none_iff, positive, Runnable]

/-- A listener that has taken its session gets into its loop if its timer can be set up, and crashes
otherwise. -/
lemma Listen.starts_or_crashes {cfg : Config} {seconds : Nat}
    (configured : cfg.keepalive.interval = .ofSecs seconds) (shared : Shared) (s : Session)
    (now : Duration) :
    (Runnable seconds now → (starting s).advance cfg shared (.tick now) =
      some ⟨shared, .polling s (Keepalive.start now), [.began (.receive s.transport)]⟩) ∧
    (¬Runnable seconds now → ∃ cause, (starting s).advance cfg shared (.tick now) =
      some ⟨shared, .crashed cause, []⟩) := by
  rw [← timerCrash?_ofSecs, ← configured]
  constructor
  · intro set
    exact advance_iff.2 (.started set)
  · intro unset
    obtain ⟨cause, unset⟩ := Option.ne_none_iff_exists'.1 unset
    exact ⟨cause, advance_iff.2 (.crashed unset)⟩

/-- Whatever settings are accepted, they stay accepted with no time at all between pings, and then
every listener crashes as soon as it has taken its session. -/
theorem Listen.crashes_of_zero {lookup : Lookup} {settings : Settings}
    (accepted : Settings.ofLookup lookup = .ok settings) :
    ∃ still, Settings.ofLookup (Function.update lookup Settings.pingVariable (some "0")) =
        .ok still ∧
      ∀ shared s now, ∃ cause, (starting s).advance (Config.ofSettings still) shared (.tick now) =
        some ⟨shared, .crashed cause, []⟩ := by
  have same := Settings.ofLookup_update lookup (some "0")
  rw [accepted] at same
  refine ⟨_, same, fun shared s now => ?_⟩
  have configured := Settings.interval_of_ofLookup same
  have zero : Lookup.pingSeconds (Function.update lookup Settings.pingVariable (some "0")) = 0 := by
    simp only [Lookup.pingSeconds, Lookup.whole, Lookup.optional, Function.update_self]
    rfl
  rw [zero] at configured
  exact (starts_or_crashes configured shared s now).2 fun runnable => Nat.lt_irrefl 0 runnable.1

/-- Under settings that were accepted, a listener that has taken its session gets into its loop
exactly when the configured number of seconds between pings is not zero and the first ping is due at
a moment that can be kept, and crashes otherwise. In no run of the client is a listener in its loop
with no time between pings, or crashes for a period of zero with some. -/
theorem System.listeners_start {lookup : Lookup} {settings : Settings}
    (accepted : Settings.ofLookup lookup = .ok settings) :
    (∀ shared s now,
      (Listen.Runnable lookup.pingSeconds now →
        (Listen.starting s).advance (Config.ofSettings settings) shared (.tick now) =
          some ⟨shared, .polling s (Keepalive.start now), [.began (.receive s.transport)]⟩) ∧
      (¬Listen.Runnable lookup.pingSeconds now →
        ∃ cause, (Listen.starting s).advance (Config.ofSettings settings) shared (.tick now) =
          some ⟨shared, .crashed cause, []⟩)) ∧
    ∀ seen sys, System.Steps (Config.ofSettings settings) System.initial seen sys →
      ∀ t ∈ sys.tasks, t.Suits (.ofSecs lookup.pingSeconds) := by
  have configured := Settings.interval_of_ofLookup accepted
  refine ⟨Listen.starts_or_crashes configured, fun seen sys run => ?_⟩
  rw [← configured]
  exact run.suits (by simp [System.initial])

/-- Variables that configure no time between pings. -/
def restlessLookup : Lookup :=
  Lookup.ofEntries ["KIS_APP_KEY=app-key", "KIS_APP_SECRET=app-secret", "KIS_HTS_ID=hts-user",
    "KIS_PING_INTERVAL_SECS=0"]

/-- The settings of these variables are accepted, and their listener crashes at once. -/
theorem restlessLookup_crashes :
    ∃ settings, Settings.ofLookup restlessLookup = .ok settings ∧
      ∃ cause, (Listen.starting ⟨0, Codec.ofSubscriptions settings.subscriptions⟩).advance
        (Config.ofSettings settings) Shared.initial (.tick .zero) =
          some ⟨Shared.initial, .crashed cause, []⟩ := by
  obtain ⟨settings, accepted⟩ : ∃ settings, Settings.ofLookup restlessLookup = .ok settings :=
    ⟨_, rfl⟩
  have zero : restlessLookup.pingSeconds = 0 := by decide
  obtain ⟨starts, -⟩ := System.listeners_start accepted
  refine ⟨settings, accepted, (starts _ _ _).2 ?_⟩
  rw [zero]
  exact fun runnable => Nat.lt_irrefl 0 runnable.1

end Client

end FillFeed
