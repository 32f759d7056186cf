import Mathlib
import FillFeed.Effect

/-!
# Recorded counts

A recorder that has seen some effects holds, for each counter, how often it was counted
(`Recorder.get_observeAll`). `Recorder.total` adds up all counters of one name, whatever their
labels are, and `Recorder.total_observeAll` says that this is how often any of them was counted.
-/

namespace FillFeed

/-- The counter that is raised. -/
def Effect.metric? : Effect → Option Metric
  | .counted m => some m
  | _ => none

/-- The counters that are raised, as often as they are. -/
def metrics (es : List Effect) : List Metric := es.filterMap Effect.metric?

/-- What is counted is put together like what is done. -/
@[simp] lemma metrics_append (xs ys : List Effect) :
    metrics (xs ++ ys) = metrics xs ++ metrics ys := List.filterMap_append

namespace Recorder

/-- The sum of all counters of one name. -/
def total (r : Recorder) (name : String) : Nat :=
  ((r.counts.filter fun entry => entry.1.name = name).map (·.2)).sum

/-- A counter that is raised has one more, and every other one has what it had. -/
lemma lookup_raise (m other : Metric) (counts : List (Metric × Nat)) :
    ((raise m counts).lookup other).getD 0 =
      (counts.lookup other).getD 0 + if m = other then 1 else 0 := by
  induction counts with
  | nil =>
    by_cases same : m = other
    · simp [raise, same]
    · simp [raise, same, List.lookup_cons, beq_eq_false_iff_ne.2 (Ne.symm same)]
  | cons entry rest ih =>
    obtain ⟨first, n⟩ := entry
    rw [raise]
    split
    · rename_i here
      subst here
      by_cases same : m = other
      · simp [same]
      · simp [same, List.lookup_cons, beq_eq_false_iff_ne.2 (Ne.symm same)]
    · rename_i later
      by_cases same : other = first
      · subst same
        simp [later]
      · simp only [List.lookup_cons, beq_eq_false_iff_ne.2 same]
        exact ih

/-- The sum over a name has one more if the counter that is raised has this name. -/
lemma total_raise (m : Metric) (counts : List (Metric × Nat)) (name : String) :
    (((raise m counts).filter fun entry => entry.1.name = name).map (·.2)).sum =
      ((counts.filter fun entry => entry.1.name = name).map (·.2)).sum +
        if m.name = name then 1 else 0 := by
  induction counts with
  | nil => by_cases named : m.name = name <;> simp [raise, named]
  | cons entry rest ih =>
    obtain ⟨first, n⟩ := entry
    rw [raise]
    split
    · rename_i here
      subst here
      by_cases named : m.name = name
      · simp [named]
        omega
      · simp [named]
    · by_cases named : first.name = name
      · simp only [named, decide_true, List.filter_cons_of_pos, List.map_cons, List.sum_cons, ih]
        omega
      · simp only [named, decide_false, Bool.false_eq_true, not_false_eq_true,
          List.filter_cons_of_neg, ih]

/-- Each counter stands at how often it was counted. -/
theorem get_observeAll (r : Recorder) (es : List Effect) (m : Metric) :
    (r.observeAll es).get m = r.get m + (metrics es).count m := by
  induction es generalizing r with
  | nil => rfl
  | cons e es ih =>
    rw [observeAll, List.foldl_cons, ← observeAll, ih]
    cases e with
    | counted m' =>
      have raised : (r.observe (.counted m')).get m = r.get m + if m' = m then 1 else 0 :=
        lookup_raise m' m r.counts
      have rest : metrics (.counted m' :: es) = m' :: metrics es := rfl
      rw [raised, rest, List.count_cons]
      simp only [beq_iff_eq]
      omega
    | _ => rfl

/-- The counters of one name add up to how often any of them was counted. -/
theorem total_observeAll (r : Recorder) (es : List Effect) (name : String) :
    (r.observeAll es).total name = r.total name + (metrics es).countP (·.name = name) := by
  induction es generalizing r with
  | nil => rfl
  | cons e es ih =>
    rw [observeAll, List.foldl_cons, ← observeAll, ih]
    cases e with
    | counted m =>
      have raised : (r.observe (.counted m)).total name =
          r.total name + if m.name = name then 1 else 0 := total_raise m r.counts name
      have rest : metrics (.counted m :: es) = m :: metrics es := rfl
      rw [raised, rest, List.countP_cons]
      simp only [decide_eq_true_eq]
      omega
    | _ => rfl

end Recorder

end FillFeed
