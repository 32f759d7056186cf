import Mathlib
import FillFeed.Proofs.Connect.Budget

/-!
# Histories of a retry budget

Attempts fail and failures are forgotten in any order and as often as one likes. What a `Retry`
knows of such a history is how many attempts have failed since the failures were last forgotten
(`streak`), counted up to a limit that no plan exceeds (`after_start`). `budget_over_history` says
what follows for the next failure, and that a spent budget stays spent until it is reset.
-/

namespace FillFeed.Retry

/-- What a budget is told: an attempt failed, or the failures are to be forgotten. -/
inductive Use where
  | failed (draw : Draw)
  | reset

/-- Whether an attempt failed. -/
def Use.isFailure : Use → Bool
  | .failed _ => true
  | .reset => false

/-- A budget after one use. -/
def meet (r : Retry) : Use → Retry
  | .failed draw => (r.fail draw).1
  | .reset => r.reset

/-- A budget after a history. -/
def after (r : Retry) (us : List Use) : Retry := us.foldl meet r

/-- The number of failures since the last reset, or since the beginning if there is none. -/
def streak (us : List Use) : Nat := (us.reverse.takeWhile Use.isFailure).length

section

variable {plan : Plan} {us : List Use} {draw : Draw}

/-- There is no streak after a reset. -/
lemma streak_reset : streak (us ++ [.reset]) = 0 := by
  rw [streak, List.reverse_append, List.reverse_singleton, List.singleton_append,
    List.takeWhile_cons_of_neg Bool.false_ne_true, List.length_nil]

/-- Another failure makes a streak longer by one. -/
lemma streak_failed : streak (us ++ [.failed draw]) = streak us + 1 := by
  rw [streak, List.reverse_append, List.reverse_singleton, List.singleton_append,
    List.takeWhile_cons_of_pos rfl, List.length_cons, streak]

/-- Failures that no reset interrupts are all counted. -/
lemma streak_append_of_unreset {more : List Use} (unreset : .reset ∉ more) :
    streak (us ++ more) = streak us + more.length := by
  induction more using List.reverseRecOn with
  | nil => simp
  | append_singleton more use ih =>
    rw [List.mem_append, not_or] at unreset
    cases use with
    | failed draw =>
      rw [← List.append_assoc, streak_failed, ih unreset.1, List.length_append,
        List.length_singleton, Nat.add_assoc]
    | reset => exact absurd List.mem_cons_self unreset.2

/-- A last use is told to the budget after those before it. -/
lemma after_concat (r : Retry) (us : List Use) (use : Use) :
    r.after (us ++ [use]) = (r.after us).meet use :=
  List.foldl_concat ..

/-- One more failure adds to the streak, as long as it can be counted. -/
lemma bump_streak (plan : Plan) (k : Nat) :
    bump ⟨plan, min k countLimit⟩ = ⟨plan, min (k + 1) countLimit⟩ := by
  have counted : min countLimit (min k countLimit + 1) = min (k + 1) countLimit := by omega
  rw [bump, counted]

/-- All that is left of a history is its last streak of failures, as far as it can be counted. -/
lemma after_start (plan : Plan) (us : List Use) :
    (start plan).after us = ⟨plan, min (streak us) countLimit⟩ := by
  -- the last use decides, so that the history is built up to its end
  induction us using List.reverseRecOn with
  | nil => rfl
  | append_singleton us use ih =>
    rw [after_concat, ih]
    cases use with
    | failed draw =>
      rw [streak_failed]
      exact bump_streak plan (streak us)
    | reset =>
      rw [streak_reset, Nat.zero_min]
      rfl

/-- Counting up to the limit does not change how a count compares with what a plan allows. -/
lemma counted_lt_iff (countable : plan.attempts ≤ countLimit) (k : Nat) :
    min k countLimit < plan.attempts ↔ k < plan.attempts := by
  omega

/-- The answer to a failure depends on the streak that it ends. -/
lemma fail_after_start (steady : plan.jitter.isAtMostZero = true)
    (countable : plan.attempts ≤ countLimit) (us : List Use) (draw : Draw) :
    (((start plan).after us).fail draw).2 =
      if streak us + 1 < plan.attempts then some (.ok plan.delay) else none := by
  rw [after_start]
  simp only [fail, bump_streak, mayRetry, decide_eq_true_eq, counted_lt_iff countable,
    Plan.pause_of_steady steady]

end

/-- For every plan without jitter and every history of failures and resets: the count is that of the
failures since the last reset, up to the greatest number of 32 bits; another attempt is allowed
exactly when the count is below what the plan allows, which is when so few attempts have failed
since the last reset; the next failure is answered with the planned delay when with it there are
still fewer failures since the last reset than the plan allows, and with nothing otherwise; and once
it was answered with nothing, so is every further failure until a reset. -/
theorem budget_over_history {plan : Plan} (steady : plan.jitter.isAtMostZero = true)
    (countable : plan.attempts < 2 ^ 32) (us : List Use) :
    ((start plan).after us).failures = min (streak us) (2 ^ 32 - 1) ∧
    (((start plan).after us).mayRetry = true ↔
      ((start plan).after us).failures < plan.attempts) ∧
    (((start plan).after us).mayRetry = true ↔ streak us < plan.attempts) ∧
    (∀ draw, (((start plan).after us).fail draw).2 =
      if streak us + 1 < plan.attempts then some (.ok plan.delay) else none) ∧
    ∀ draw, (((start plan).after us).fail draw).2 = none →
      ∀ more, .reset ∉ more → ∀ draw',
        (((start plan).after (us ++ .failed draw :: more)).fail draw').2 = none := by
  have limit : countLimit = 2 ^ 32 - 1 := rfl
  replace countable : plan.attempts ≤ countLimit := by omega
  refine ⟨?_, ?_, ?_, fail_after_start steady countable us, ?_⟩
  · rw [after_start, limit]
  · rw [after_start, mayRetry, decide_eq_true_eq]
  · rw [after_start, mayRetry, decide_eq_true_eq]
    exact counted_lt_iff countable (streak us)
  · intro draw spent more unreset draw'
    have last : ¬streak us + 1 < plan.attempts := by
      intro room
      rw [fail_after_start steady countable, if_pos room] at spent
      cases spent
    rw [fail_after_start steady countable, if_neg]
    rw [List.append_cons, streak_append_of_unreset unreset, streak_failed]
    omega

/-- The most attempts that a plan can allow. -/
def widestPlan : Plan := ⟨.ofMillis 10, Binary64.zero, 2 ^ 32 - 1⟩

/-- One failure more than can be counted spends the widest budget, and the count does not start
again from zero. -/
theorem widestPlan_spent :
    ((start widestPlan).after (List.replicate (2 ^ 32) (.failed 0))).failures = 2 ^ 32 - 1 ∧
      (((start widestPlan).after (List.replicate (2 ^ 32) (.failed 0))).fail 0).2 = none := by
  have counted : streak (List.replicate (2 ^ 32) (.failed 0)) = 2 ^ 32 := by
    simp only [streak, List.reverse_replicate, List.takeWhile_replicate, Use.isFailure, ite_true,
      List.length_replicate]
  obtain ⟨failures, -, -, answer, -⟩ := @budget_over_history widestPlan rfl (by decide)
    (List.replicate (2 ^ 32) (.failed 0))
  rw [counted] at failures answer
  exact ⟨failures, answer 0⟩

end FillFeed.Retry
