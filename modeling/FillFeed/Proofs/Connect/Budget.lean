import Mathlib
import FillFeed.Proofs.Connect.Reuse

/-!
# The budget of attempts

A call that connects makes one attempt after the other until one succeeds or the budget is spent.
`Retry.Within` says that a count of failures leaves room for the attempt that is under way; every
call keeps to it (`Connect.Step.counts`), whatever its pauses and whether it is stopped or not.

The history of a call is a list of `Milestone`s. As long as the client is not stopped and its pauses
are not random, the history of a call that stands at some place is what `Ledger` says: rounds of one
failed attempt and one pause each, as many as failures were counted, and then what belongs to the
current attempt. `attempts_within_budget` draws the conclusion for a call that has returned, and
says what it leaves in the slot and in the state (`Leaves`).
-/

namespace FillFeed

namespace Retry

/-- The attempt under way is the last one that the budget allows. -/
def IsLast (r : Retry) : Prop := r.bump.mayRetry = false

/-- A count that follows a plan and leaves room for the attempt under way. -/
structure Within (plan : Plan) (r : Retry) : Prop where
  plan_eq : r.plan = plan
  failures_lt : r.failures < max 1 plan.attempts

/-- Without jitter the pause is the planned delay. -/
lemma Plan.pause_of_steady {p : Plan} (steady : p.jitter.isAtMostZero = true) (draw : Draw) :
    p.pause draw = .ok p.delay := by
  simp [Plan.pause, Plan.drawError?, steady]

/-- A single failure can be counted. -/
lemma one_le_countLimit : 1 ≤ countLimit := by decide

/-- The count begins within every plan. -/
lemma Within.start (plan : Plan) : Within plan (start plan) :=
  ⟨rfl, Nat.lt_of_lt_of_le Nat.one_pos (le_max_left _ _)⟩

/-- One more failure spends the budget, or leaves room for another attempt after a pause. -/
lemma fail_cases {r r' : Retry} {draw : Draw} {p : Option (Except DrawError Duration)}
    (fails : r.fail draw = (r', p)) :
    r' = r.bump ∧ ((p = none ∧ r.IsLast) ∨
      (p = some (r.plan.pause draw) ∧ r.bump.failures < r.plan.attempts)) := by
  unfold fail at fails
  dsimp only at fails
  split at fails
  · rename_i may
    cases fails
    exact ⟨rfl, .inr ⟨rfl, of_decide_eq_true may⟩⟩
  · rename_i spent
    cases fails
    exact ⟨rfl, .inl ⟨rfl, Bool.eq_false_iff.2 spent⟩⟩

/-- A failure that leaves room for another attempt keeps the count within the plan. -/
lemma Within.bump {plan : Plan} {r : Retry} (within : Within plan r)
    (room : r.bump.failures < r.plan.attempts) : Within plan r.bump := by
  refine ⟨within.plan_eq, ?_⟩
  rw [within.plan_eq] at room
  exact room.trans_le (le_max_right _ _)

/-- The failure of the last attempt is the one with which all allowed attempts have failed. -/
lemma Within.failures_of_isLast {plan : Plan} {r : Retry} (within : Within plan r)
    (last : r.IsLast) : r.bump.failures = max 1 plan.attempts := by
  have room := within.failures_lt
  have spent : plan.attempts ≤ min countLimit (r.failures + 1) := by
    simpa [IsLast, mayRetry, Retry.bump, within.plan_eq] using last
  have limit := one_le_countLimit
  change min countLimit (r.failures + 1) = _
  omega

/-- Failures are counted one by one as long as the plan allows no more than can be counted. -/
lemma Within.bump_eq {plan : Plan} {r : Retry} (within : Within plan r)
    (countable : plan.attempts ≤ countLimit) : r.bump = ⟨plan, r.failures + 1⟩ := by
  have room := within.failures_lt
  have limit := one_le_countLimit
  have counted : min countLimit (r.failures + 1) = r.failures + 1 := by omega
  rw [Retry.bump, counted, within.plan_eq]

end Retry

namespace Client

/-- What marks the attempts of a call that connects and the pauses between them. -/
inductive Milestone where
  | began
  | dialed
  | failed
  | succeeded (session : Session)
  | slept (delay : Duration)

/-- What an effect says about the attempt under way. -/
def milestone? : Effect → Option Milestone
  | .began (.openTransport _) => some .dialed
  | .noted (.attemptFailed ..) => some .failed
  | _ => none

/-- Whether an attempt has called the connector. -/
def Attempt.hasDialed : Attempt → Bool
  | .credential _ => false
  | _ => true

/-- What marks an attempt that has called the connector or not, up to its end. -/
def begun (dialed : Bool) : List Milestone := if dialed then [.began, .dialed] else [.began]

/-- What marks an attempt that fails. -/
def failedRound (dialed : Bool) : List Milestone := begun dialed ++ [.failed]

/-- What marks an attempt that succeeds. -/
def succeededRound (session : Session) : List Milestone := begun true ++ [.succeeded session]

/-- What marks some attempts that fail and the pauses after them. -/
def rounds (delay : Duration) (dials : List Bool) : List Milestone :=
  dials.flatMap fun dialed => failedRound dialed ++ [.slept delay]

/-- A deed that does not find the client stopped. -/
def Awake {σ : Type} (d : Deed σ) : Prop :=
  d.found.stopped = false ∧ d.found.state.isTerminal = false

namespace Connect

/-- What a deed begins: an attempt, or what comes after a pause. -/
def entered (c : Connect) (h : Happening) : List Milestone :=
  match c, h with
  | .launching _ _, .proceed => [.began]
  | .pausing _ _ delay, .elapsed => [.slept delay]
  | _, _ => []

/-- What a deed leads to: a subscribed session. -/
def reached : Connect → List Milestone
  | .parking session => [.succeeded session]
  | _ => []

/-- The milestones that a call passes from one place to the next. -/
def passed (c : Connect) (h : Happening) (next : Connect) (did : List Effect) : List Milestone :=
  entered c h ++ did.filterMap milestone? ++ reached next

/-- The milestones of some deeds. -/
def history (ds : List (Deed Connect)) : List Milestone :=
  ds.flatMap fun d => passed d.stood d.met d.goes d.did

/-- A call whose count of failures is within the budget, and which gives up for want of attempts
only when all of them have failed. -/
def Counts (cfg : Config) : Connect → Prop
  | .checking retry _ | .announcing retry _ | .launching retry _ | .attempting retry _
  | .reissuing retry _ | .deciding retry _ | .pausing retry _ _ => retry.Within cfg.retry
  | .finished (.error e) => e = .stopped ∨ e = .exhausted (max 1 cfg.retry.attempts)
  | _ => True

/-- The history of a call that stands at a place. -/
inductive Ledger (cfg : Config) : List Milestone → Connect → Prop where
  | checking {dials carried} :
    Ledger cfg (rounds cfg.retry.delay dials) (.checking ⟨cfg.retry, dials.length⟩ carried)
  | announcing {dials carried} :
    Ledger cfg (rounds cfg.retry.delay dials) (.announcing ⟨cfg.retry, dials.length⟩ carried)
  | launching {dials carried} :
    Ledger cfg (rounds cfg.retry.delay dials) (.launching ⟨cfg.retry, dials.length⟩ carried)
  | attempting {dials a} :
    Ledger cfg (rounds cfg.retry.delay dials ++ begun a.hasDialed)
      (.attempting ⟨cfg.retry, dials.length⟩ a)
  | reissuing {dials dialed stage} :
    Ledger cfg (rounds cfg.retry.delay dials ++ failedRound dialed)
      (.reissuing ⟨cfg.retry, dials.length⟩ stage)
  | deciding {dials dialed carried} :
    Ledger cfg (rounds cfg.retry.delay dials ++ failedRound dialed)
      (.deciding ⟨cfg.retry, dials.length⟩ carried)
  | pausing {dials dialed carried} :
    Ledger cfg (rounds cfg.retry.delay dials ++ failedRound dialed)
      (.pausing ⟨cfg.retry, dials.length + 1⟩ carried cfg.retry.delay)
  | parking {dials session} (room : dials.length < max 1 cfg.retry.attempts) :
    Ledger cfg (rounds cfg.retry.delay dials ++ succeededRound session) (.parking session)
  | replacing {dials session encrypted t} (room : dials.length < max 1 cfg.retry.attempts) :
    Ledger cfg (rounds cfg.retry.delay dials ++ succeededRound session) (.replacing encrypted t)
  | confirming {dials session encrypted} (room : dials.length < max 1 cfg.retry.attempts) :
    Ledger cfg (rounds cfg.retry.delay dials ++ succeededRound session) (.confirming encrypted)
  | publishing {dials session encrypted} (room : dials.length < max 1 cfg.retry.attempts) :
    Ledger cfg (rounds cfg.retry.delay dials ++ succeededRound session) (.publishing encrypted)
  | established {dials session} (room : dials.length < max 1 cfg.retry.attempts) :
    Ledger cfg (rounds cfg.retry.delay dials ++ succeededRound session) (.finished (.ok ()))
  | spent {dials dialed} (all : dials.length + 1 = max 1 cfg.retry.attempts) :
    Ledger cfg (rounds cfg.retry.delay dials ++ failedRound dialed)
      (.finished (.error (.exhausted (max 1 cfg.retry.attempts))))

/-- What a call with some history leaves in the slot, which held something when it began, and how it
leaves the state. -/
def Leaves (slot : Option Session) (log : List Milestone) (left : Shared) : Connect → Prop
  | .parking s => left.slot = slot ∧ .succeeded s ∈ log
  | .replacing _ _ | .confirming _ | .publishing _ => ∃ s, .succeeded s ∈ log ∧ left.slot = some s
  | .finished (.ok ()) => ∃ s, .succeeded s ∈ log ∧ left.slot = some s ∧ left.state = .connected
  | .reissuing _ _ | .deciding _ _ | .finished (.error _) =>
    left.slot = slot ∧ left.state = .disconnected
  | .withdrawing | .discarding _ => False
  | _ => left.slot = slot

section

variable {cfg : Config} {shared : Shared} {h : Happening}

/-- A request for a key passes no milestone. -/
lemma filterMap_milestone_approval {stage : Approval.Stage} {r : Reply} {p : Approval.Progress}
    {did : List Effect} (st : Approval.Step stage r p did) : did.filterMap milestone? = [] := by
  cases st <;> rfl

/-- A change of the state passes no milestone. -/
@[simp] lemma filterMap_milestone_setState {next : ConnectionState} :
    (shared.setState next).2.filterMap milestone? = [] :=
  filterMap_setState (fun _ _ => rfl) fun _ => rfl

/-- What is told about a closing passes no milestone. -/
@[simp] lemma filterMap_milestone_closeNotices {result : Except TransportError Unit} :
    (closeNotices result).filterMap milestone? = [] :=
  filterMap_closeNotices fun _ => rfl

/-- Subscribing passes no milestone. -/
lemma filterMap_milestone_subscribe {key : ApprovalKey} {t : TransportId} {codec : Codec}
    {effects : List Effect} {rest : List Subscription} :
    (Attempt.subscribe shared key t codec effects rest).effects.filterMap milestone? =
      effects.filterMap milestone? :=
  Attempt.filterMap_subscribe fun _ _ => rfl

/-- An attempt that goes on calls the connector only if it has not called it before. -/
lemma begun_of_waits {a a' : Attempt} {o : Attempt.Outcome} (st : Attempt.Step cfg shared a h o)
    (waits : o.progress = .waits a') :
    begun a.hasDialed ++ o.effects.filterMap milestone? = begun a'.hasDialed := by
  cases st with
  | obtaining st =>
    cases waits
    rw [filterMap_milestone_approval st]
    rfl
  | obtained st =>
    cases waits
    rw [List.filterMap_append, filterMap_milestone_approval st]
    rfl
  | @opened key =>
    -- with or without a request to send, the connector has been called before
    rw [filterMap_milestone_subscribe, List.filterMap_cons_none rfl, filterMap_milestone_setState]
    obtain e | ⟨s, rest, -, e⟩ := Attempt.subscribe_cases _ key _ _ _ cfg.subscriptions
    · cases (congrArg Attempt.Outcome.progress e).symm.trans waits
    · cases (congrArg Attempt.Outcome.progress e).symm.trans waits
      rfl
  | @accepted hs =>
    rw [filterMap_milestone_subscribe]
    obtain e | ⟨s, rest, -, e⟩ := Attempt.subscribe_cases shared hs.key hs.transport _ _ hs.rest
    · cases (congrArg Attempt.Outcome.progress e).symm.trans waits
    · cases (congrArg Attempt.Outcome.progress e).symm.trans waits
      rfl
  | unobtained | unopened | unopenedLate | abandoned | abandonedLate => cases waits
  | _ =>
    cases waits
    rfl

/-- An attempt does not call the connector when it ends, and has called it when it succeeds. -/
lemma quiet_of_done {a : Attempt} {o : Attempt.Outcome} {result : Except ClientError Session}
    (st : Attempt.Step cfg shared a h o) (ends : o.progress = .done result) :
    o.effects.filterMap milestone? = [] ∧ (∀ s, result = .ok s → a.hasDialed = true) := by
  cases st with
  | unobtained st =>
    cases ends
    exact ⟨filterMap_milestone_approval st, nofun⟩
  | opened =>
    refine ⟨?_, fun _ _ => rfl⟩
    rw [filterMap_milestone_subscribe, List.filterMap_cons_none rfl, filterMap_milestone_setState]
  | accepted => exact ⟨filterMap_milestone_subscribe, fun _ _ => rfl⟩
  | abandoned => exact ⟨filterMap_milestone_closeNotices, fun _ _ => rfl⟩
  | unopened | unopenedLate | abandonedLate => exact ⟨rfl, fun _ _ => rfl⟩
  | _ => cases ends

/-- A call keeps its count of failures within the budget. -/
lemma Step.counts {c : Connect} {o : Outcome} (st : Step cfg shared c h o)
    (counts : Counts cfg c) : Counts cfg o.next := by
  cases st with
  | cleared | announced | launched | attempting | reissuing | reissued | unreissued | resumed =>
    exact counts
  | @failed retry _ _ shared' cause effects =>
    obtain ⟨rejection, -, e⟩ | ⟨-, e⟩ := failed_cases cfg shared' retry cause effects
    · rw [e]
      exact counts
    · rw [e]
      exact counts
  | exhausted spent =>
    obtain ⟨rfl, ⟨-, last⟩ | ⟨more, -⟩⟩ := Retry.fail_cases spent
    · exact .inr (congrArg _ (Retry.Within.failures_of_isLast counts last))
    · cases more
  | paused allowed =>
    obtain ⟨rfl, ⟨none, -⟩ | ⟨-, room⟩⟩ := Retry.fail_cases allowed
    · cases none
    · exact Retry.Within.bump counts room
  | halted | unlaunched | dropped | woken | gone | discarded | discardedLate => exact .inl rfl
  | _ => trivial

variable {d : Deed Connect} {log : List Milestone}

/-- A deed that fails an attempt passes the milestone of the failure and no other one. -/
lemma filterMap_milestone_failed (cfg : Config) (shared : Shared) (retry : Retry)
    (cause : ClientError) (effects : List Effect) :
    (failed cfg shared retry cause effects).effects.filterMap milestone? =
        effects.filterMap milestone? ++ [.failed] ∧
      reached (failed cfg shared retry cause effects).next = [] := by
  obtain ⟨rejection, -, e⟩ | ⟨-, e⟩ := failed_cases cfg shared retry cause effects
  · rw [e]
    simp only [List.filterMap_append, filterMap_milestone_setState, List.append_nil]
    exact ⟨List.append_assoc .., rfl⟩
  · rw [e]
    simp only [List.filterMap_append, filterMap_milestone_setState, List.append_nil]
    exact ⟨rfl, rfl⟩

/-- One more attempt that fails adds a round and the pause after it. -/
lemma rounds_concat (delay : Duration) (dials : List Bool) (dialed : Bool) :
    rounds delay (dials ++ [dialed]) =
      rounds delay dials ++ failedRound dialed ++ [.slept delay] := by
  simp [rounds]

/-- As long as the client is not stopped and pauses are not random, what a call does is entered in
its ledger. -/
lemma Step.ledger {c : Connect} {o : Outcome} (st : Step cfg shared c h o)
    (free : shared.stopped = false) (steady : cfg.retry.jitter.isAtMostZero = true)
    (countable : cfg.retry.attempts ≤ Retry.countLimit) (counts : Counts cfg c)
    (ledger : Ledger cfg log c) : Ledger cfg (log ++ passed c h o.next o.effects) o.next := by
  cases st with
  | halted stopped | unlaunched stopped | dropped stopped | woken stopped | revoked stopped =>
    cases free.symm.trans stopped
  | cleared =>
    cases ledger
    simpa [passed, entered, reached] using .announcing
  | announced =>
    cases ledger
    simpa [passed, entered, reached, milestone?, List.filterMap_cons] using .launching
  | @launched _ carried =>
    cases ledger
    have begins (retry : Retry) : passed (.launching retry carried) .proceed
        (.attempting retry (Attempt.begin cfg carried).1) (Attempt.begin cfg carried).2 =
          begun (Attempt.begin cfg carried).1.hasDialed := by
      cases carried <;> rfl
    rw [begins]
    exact .attempting
  | attempting st =>
    cases ledger
    have begins := begun_of_waits st rfl
    dsimp only at begins
    simpa [passed, entered, reached, begins] using Ledger.attempting
  | @succeeded _ a _ _ session _ st =>
    cases ledger
    obtain ⟨quiet, dialed⟩ := quiet_of_done st rfl
    dsimp only at quiet
    have parking := @Ledger.parking cfg _ session counts.failures_lt
    simpa [passed, entered, reached, quiet, dialed, succeededRound] using parking
  | @failed retry a _ shared' cause effects st =>
    cases ledger
    obtain ⟨quiet, -⟩ := quiet_of_done st rfl
    obtain ⟨fails, unreached⟩ :=
      filterMap_milestone_failed cfg shared' ⟨cfg.retry, _⟩ cause effects
    rw [passed, fails, unreached, quiet, List.append_assoc]
    obtain ⟨rejection, -, e⟩ | ⟨-, e⟩ := failed_cases cfg shared' ⟨cfg.retry, _⟩ cause effects
    · rw [e]
      exact .reissuing
    · rw [e]
      exact .deciding
  | reissuing st =>
    cases ledger
    simpa [passed, entered, reached, filterMap_milestone_approval st] using Ledger.reissuing
  | reissued st =>
    cases ledger
    simpa [passed, entered, reached, filterMap_milestone_approval st] using Ledger.deciding
  | unreissued st =>
    cases ledger
    simpa [passed, entered, reached, filterMap_milestone_approval st, milestone?,
      List.filterMap_cons] using Ledger.deciding
  | exhausted spent =>
    cases ledger
    -- the failure that no pause follows is the one of the last attempt
    obtain ⟨rfl, ⟨-, last⟩ | ⟨more, -⟩⟩ := Retry.fail_cases spent
    · have all := counts.failures_of_isLast last
      have one := congrArg Retry.failures (counts.bump_eq countable)
      rw [all]
      simpa [passed, entered, reached] using Ledger.spent (one.symm.trans all)
    · cases more
  | unpausable refused =>
    -- only a random pause can be refused
    obtain ⟨-, ⟨none, -⟩ | ⟨some, -⟩⟩ := Retry.fail_cases refused
    · cases none
    · rw [counts.plan_eq, Retry.Plan.pause_of_steady steady] at some
      cases some
  | paused allowed =>
    cases ledger
    obtain ⟨rfl, ⟨none, -⟩ | ⟨some, -⟩⟩ := Retry.fail_cases allowed
    · cases none
    · rw [Retry.Plan.pause_of_steady steady] at some
      cases some
      rw [counts.bump_eq countable]
      simpa [passed, entered, reached, milestone?, List.filterMap_cons] using Ledger.pausing
  | resumed =>
    cases ledger with
    | @pausing dials dialed =>
      have more := @Ledger.checking cfg (dials ++ [dialed])
      rw [rounds_concat, List.length_append] at more
      exact more
  | parked =>
    cases ledger
    simpa [passed, entered, reached] using Ledger.confirming ‹_›
  | parkedOver =>
    cases ledger
    simpa [passed, entered, reached, milestone?, List.filterMap_cons] using Ledger.replacing ‹_›
  | replaced | replacedLate =>
    cases ledger
    simpa [passed, entered, reached, milestone?, List.filterMap_cons] using Ledger.confirming ‹_›
  | confirmed =>
    cases ledger
    simpa [passed, entered, reached] using Ledger.publishing ‹_›
  | published =>
    cases ledger
    simpa [passed, entered, reached, milestone?, List.filterMap_cons] using Ledger.established ‹_›
  | gone | withdrawn | discarded | discardedLate => cases ledger

/-- An attempt that fails leaves all that is shared as it is. -/
lemma shared_of_failed {a : Attempt} {shared' : Shared} {cause : ClientError}
    {effects : List Effect}
    (st : Attempt.Step cfg shared a h ⟨shared', .done (.error cause), effects⟩) :
    shared' = shared := by
  generalize e : (⟨shared', .done (.error cause), effects⟩ : Attempt.Outcome) = o at st
  cases st with
  | opened | accepted =>
    exact absurd (congrArg Attempt.Outcome.progress e).symm Attempt.subscribe_ne_error
  | _ => cases e <;> rfl

/-- As long as the client is not stopped, a call leaves what it should. -/
lemma Step.leaves {c : Connect} {o : Outcome} {slot : Option Session}
    (st : Step cfg shared c h o) (free : shared.stopped = false)
    (alive : shared.state.isTerminal = false) (leaves : Leaves slot log shared c) :
    Leaves slot (log ++ passed c h o.next o.effects) o.shared o.next := by
  cases st with
  | halted stopped | unlaunched stopped | dropped stopped | woken stopped | revoked stopped =>
    cases free.symm.trans stopped
  | cleared | launched | reissuing | reissued | unreissued | exhausted | resumed => exact leaves
  | unpausable | paused => exact leaves.1
  | announced => exact Shared.setState_slot.trans leaves
  | attempting st => exact st.shared_eq.1.trans leaves
  | succeeded st => exact ⟨st.shared_eq.1.trans leaves, by simp [passed, reached]⟩
  | @failed retry _ _ _ cause effects st =>
    -- the state changes with the failure, not in the last step of the attempt
    cases shared_of_failed st
    obtain ⟨rejection, -, e⟩ | ⟨-, e⟩ := failed_cases cfg shared retry cause effects
    · rw [e]
      exact ⟨Shared.setState_slot.trans leaves, Shared.setState_state alive⟩
    · rw [e]
      exact ⟨Shared.setState_slot.trans leaves, Shared.setState_state alive⟩
  | parked | parkedOver => exact ⟨_, List.mem_append_left _ leaves.2, rfl⟩
  | replaced | replacedLate | confirmed =>
    obtain ⟨s, mem, full⟩ := leaves
    exact ⟨s, List.mem_append_left _ mem, full⟩
  | published =>
    obtain ⟨s, mem, full⟩ := leaves
    exact ⟨s, List.mem_append_left _ mem, Shared.setState_slot.trans full,
      Shared.setState_state alive⟩
  | gone | withdrawn | discarded | discardedLate => exact leaves.elim

variable {a c : Connect} {ds : List (Deed Connect)}

/-- A last deed adds its own milestones to the history. -/
lemma history_concat (ds : List (Deed Connect)) (d : Deed Connect) :
    history (ds ++ [d]) = history ds ++ passed d.stood d.met d.goes d.did := by
  simp [history]

/-- A course keeps the count of failures within the budget. -/
lemma Course.counts (run : Course cfg a ds c) (counts : Counts cfg a) : Counts cfg c :=
  Client.Course.preserves run (fun _ _ valid => (Valid.step valid).counts) counts

/-- The history of a call without random pauses on a client that is not stopped. -/
lemma Course.ledger (run : Course cfg (start cfg) ds c) (free : ∀ d ∈ ds, d.found.stopped = false)
    (steady : cfg.retry.jitter.isAtMostZero = true)
    (countable : cfg.retry.attempts ≤ Retry.countLimit) : Ledger cfg (history ds) c := by
  induction run with
  | refl => exact @Ledger.checking cfg [] none
  | @tail ds d run valid ih =>
    rw [history_concat]
    exact (Valid.step valid).ledger (free d (by simp)) steady countable
      (Course.counts run (.start _)) (ih fun d mem => free d (List.mem_append_left _ mem))

/-- What a call leaves that nobody disturbs, on a client that is not stopped. -/
lemma Course.leaves {shared left : Shared} (run : Course cfg (start cfg) ds c)
    (awake : ∀ d ∈ ds, Awake d) (alone : Undisturbed shared ds left) :
    Leaves shared.slot (history ds) left c := by
  induction run generalizing left with
  | refl =>
    cases alone.eq_of_nil
    exact rfl
  | @tail ds d _ valid ih =>
    obtain ⟨before, rfl⟩ := alone.of_concat
    obtain ⟨free, alive⟩ := awake d (by simp)
    rw [history_concat]
    exact (Valid.step valid).leaves free alive
      (ih (fun d mem => awake d (List.mem_append_left _ mem)) before)

/-- A call that is left alone finds what is shared. -/
lemma found_of_deed? {d : Deed Connect} (does : deed? cfg shared c h = some d) :
    d.found = shared := by
  obtain ⟨o, -, rfl⟩ := Option.map_eq_some_iff.1 does
  rfl

/-- Some failed attempts with their pauses, and a last attempt. -/
lemma rounds_append (delay : Duration) (dials : List Bool) (last : List Milestone) :
    rounds delay dials ++ last =
      [Milestone.slept delay].intercalate (dials.map failedRound ++ [last]) := by
  induction dials with
  | nil => simp [rounds]
  | cons dialed dials ih =>
    rw [List.map_cons, List.cons_append, List.intercalate_cons_of_ne_nil (by simp), ← ih]
    simp [rounds]

/-- Only the last attempt succeeds. -/
lemma eq_of_succeeded_mem {delay : Duration} {dials : List Bool} {s s' : Session}
    (mem : .succeeded s' ∈ rounds delay dials ++ succeededRound s) : s' = s := by
  simpa [rounds, succeededRound, failedRound, begun, apply_ite] using mem

end

/-- A call that connects, with pauses that are not random and on a client that is not stopped, never
crashes. If it returns, one of two things has happened. Either some attempts failed, fewer than the
budget allows, and the next one succeeded; then its session is parked and the state is `connected`.
Or as many attempts as the budget allows have failed, at least one; then the error says how many,
nothing was parked, and the state is `disconnected`. Between any two attempts in a row there was one
pause of the planned delay, and none after the last; and each attempt called the connector at most
once. -/
theorem attempts_within_budget {cfg : Config} {ds : List (Deed Connect)} {c : Connect}
    (steady : cfg.retry.jitter.isAtMostZero = true)
    (countable : cfg.retry.attempts ≤ Retry.countLimit) (run : Course cfg (start cfg) ds c)
    (awake : ∀ d ∈ ds, Awake d) :
    (∀ cause, c ≠ .crashed cause) ∧
      ∀ result, c = .finished result →
        (result = .ok () ∧ ∃ (dials : List Bool) (session : Session),
          dials.length + 1 ≤ max 1 cfg.retry.attempts ∧
          history ds = [.slept cfg.retry.delay].intercalate
            (dials.map failedRound ++ [succeededRound session]) ∧
          ∀ shared left, Undisturbed shared ds left →
            left.slot = some session ∧ left.state = .connected) ∨
        (result = .error (.exhausted (max 1 cfg.retry.attempts)) ∧ ∃ dials : List Bool,
          dials.length = max 1 cfg.retry.attempts ∧
          history ds = [.slept cfg.retry.delay].intercalate (dials.map failedRound) ∧
          ∀ shared left, Undisturbed shared ds left →
            left.slot = shared.slot ∧ left.state = .disconnected) := by
  have ledger := Course.ledger run (fun d mem => (awake d mem).1) steady countable
  have leaves {shared left : Shared} (alone : Undisturbed shared ds left) :=
    Course.leaves run awake alone
  -- two places of the ledger are final, and no crash has a place in it
  generalize history ds = log at ledger leaves ⊢
  refine ⟨?_, ?_⟩
  · rintro cause rfl
    cases ledger
  · rintro result rfl
    cases ledger with
    | @established dials session room =>
      refine .inl ⟨rfl, dials, session, room, rounds_append .., ?_⟩
      intro shared left alone
      obtain ⟨s, mem, parked, connected⟩ := leaves alone
      cases eq_of_succeeded_mem mem
      exact ⟨parked, connected⟩
    | @spent dials dialed all =>
      refine .inr ⟨rfl, dials ++ [dialed], by simpa using all, ?_, ?_⟩
      · rw [rounds_append, List.map_append]
        rfl
      · intro shared left alone
        exact leaves alone

/-- A configuration that allows two attempts. -/
def sampleBudget : Config := { Config.of "ws://feed" [] with retry := .of ⟨7⟩ 2 }

/-- A call whose first attempt fails and whose second one succeeds. -/
def sampleCall : List (Deed Connect) × Connect :=
  replay (deed? sampleBudget) Shared.initial (start sampleBudget)
    [.proceed, .proceed, .proceed, .reply (.cacheRead (.ok (some "key"))) ⟨0⟩,
      .reply (.opened (.error (.connect "refused"))) ⟨1⟩, .drawn sampleDraw, .elapsed,
      .proceed, .proceed, .proceed, .reply (.cacheRead (.ok (some "key"))) ⟨2⟩,
      .reply (.opened (.ok ())) ⟨3⟩, .proceed, .proceed, .proceed]

/-- The call of the sample keeps to its budget, and its session is parked. -/
theorem sampleCall_within_budget :
    sampleCall.2 = .finished (.ok ()) ∧
      ∃ (dials : List Bool) (session : Session) (left : Shared), dials.length + 1 ≤ 2 ∧
        history sampleCall.1 =
          [.slept ⟨7⟩].intercalate (dials.map failedRound ++ [succeededRound session]) ∧
        Undisturbed Shared.initial sampleCall.1 left ∧ left.slot = some session ∧
        left.state = .connected := by
  have run : Course sampleBudget (start sampleBudget) sampleCall.1 sampleCall.2 :=
    .of_replay (fun _ _ _ _ => valid_of_deed?) _ _ _
  have free : sampleCall.1.all (fun d => !d.found.stopped && !d.found.state.isTerminal) = true := by
    rfl
  have awake : ∀ d ∈ sampleCall.1, Awake d := by
    intro d mem
    simpa [Awake] using List.all_eq_true.1 free d mem
  obtain ⟨left, alone⟩ : ∃ left, Undisturbed Shared.initial sampleCall.1 left :=
    Undisturbed.of_replay (fun _ _ _ _ does => found_of_deed? does) _ _ _
  have finished : sampleCall.2 = .finished (.ok ()) := by rfl
  obtain ⟨-, returns⟩ := attempts_within_budget (by rfl) (by decide) run awake
  obtain ⟨-, dials, session, room, history_eq, leaves⟩ | ⟨failed, -⟩ := returns _ finished
  · exact ⟨finished, dials, session, left, room, history_eq, alone, leaves _ _ alone⟩
  · cases failed

end Connect

end Client

end FillFeed
