import Mathlib
import FillFeed.Proofs.Connect.Reuse
import FillFeed.Proofs.Listen.Fidelity
import FillFeed.Proofs.Task.Trace

/-!
# Calls in a run

What holds of all courses of a call holds of the call in every run of its client: the moves of a
call that listens are a course of listening (`System.Trace.listen_course`), those of a call that
connects are a course of connecting (`System.Trace.connect_course`), and those of a call that keeps
the feed running are a course of running (`System.Trace.run_course`).
-/

namespace FillFeed.Client

variable {cfg : Config}

/-- A task that listens does what a listener does. -/
lemma Task.Valid.of_listen {d : Deed Task} {l : Listen} (valid : Task.Valid cfg d)
    (stood : d.stood = .listen l) :
    ∃ d₀, Listen.Valid cfg d₀ ∧ d₀.stood = l ∧ d = d₀.map .listen := by
  obtain ⟨found, _, met, left, goes, did⟩ := d
  cases stood
  obtain ⟨o, goes, e⟩ := Option.map_eq_some_iff.1 valid
  cases e
  exact ⟨⟨found, l, met, o.shared, o.next, o.effects⟩, goes, rfl, rfl⟩

/-- A task that connects does what a call that connects does. -/
lemma Task.Valid.of_connect {d : Deed Task} {c : Connect} (valid : Task.Valid cfg d)
    (stood : d.stood = .connect c) :
    ∃ d₀, Connect.Valid cfg d₀ ∧ d₀.stood = c ∧ d = d₀.map .connect := by
  obtain ⟨found, _, met, left, goes, did⟩ := d
  cases stood
  obtain ⟨o, goes, e⟩ := Option.map_eq_some_iff.1 valid
  cases e
  exact ⟨⟨found, c, met, o.shared, o.next, o.effects⟩, goes, rfl, rfl⟩

/-- A deed that running does. -/
def Run.Valid (cfg : Config) (d : Deed Run) : Prop :=
  d.stood.advance cfg d.found d.met = some ⟨d.left, d.goes, d.did⟩

/-- A deed follows the rules. -/
lemma Run.Valid.step {d : Deed Run} (valid : Run.Valid cfg d) :
    Run.Step cfg d.found d.stood d.met ⟨d.left, d.goes, d.did⟩ :=
  Run.advance_iff.1 valid

/-- A task that keeps the feed running does what a call that keeps the feed running does. -/
lemma Task.Valid.of_run {d : Deed Task} {r : Run} (valid : Task.Valid cfg d)
    (stood : d.stood = .run r) : ∃ d₀, Run.Valid cfg d₀ ∧ d₀.stood = r ∧ d = d₀.map .run := by
  obtain ⟨found, _, met, left, goes, did⟩ := d
  cases stood
  obtain ⟨o, goes, e⟩ := Option.map_eq_some_iff.1 valid
  cases e
  exact ⟨⟨found, r, met, o.shared, o.next, o.effects⟩, goes, rfl, rfl⟩

namespace System

variable {a b : System} {ms : List Move} {i : Nat}

/-- The moves of a call that listens are a course of listening. -/
lemma Trace.listen_course {l : Listen} (run : Trace cfg a ms b)
    (at_i : a.tasks[i]? = some (.listen l)) :
    ∃ l' ds, b.tasks[i]? = some (.listen l') ∧ deedsOf i ms = ds.map (Deed.map .listen) ∧
      Listen.Course cfg l ds l' := by
  obtain ⟨t, at_i', course⟩ := run.course at_i
  obtain ⟨l', ds, rfl, deeds, course⟩ :=
    course.of_map fun d l valid stood => Task.Valid.of_listen valid stood
  exact ⟨l', ds, at_i', deeds, course⟩

/-- The moves of a call that connects are a course of connecting. -/
lemma Trace.connect_course {c : Connect} (run : Trace cfg a ms b)
    (at_i : a.tasks[i]? = some (.connect c)) :
    ∃ c' ds, b.tasks[i]? = some (.connect c') ∧ deedsOf i ms = ds.map (Deed.map .connect) ∧
      Connect.Course cfg c ds c' := by
  obtain ⟨t, at_i', course⟩ := run.course at_i
  obtain ⟨c', ds, rfl, deeds, course⟩ :=
    course.of_map fun d c valid stood => Task.Valid.of_connect valid stood
  exact ⟨c', ds, at_i', deeds, course⟩

/-- The moves of a call that keeps the feed running are a course of running. -/
lemma Trace.run_course {r : Run} (run : Trace cfg a ms b) (at_i : a.tasks[i]? = some (.run r)) :
    ∃ r' ds, b.tasks[i]? = some (.run r') ∧ deedsOf i ms = ds.map (Deed.map .run) ∧
      Course (Run.Valid cfg) r ds r' := by
  obtain ⟨t, at_i', course⟩ := run.course at_i
  obtain ⟨r', ds, rfl, deeds, course⟩ :=
    course.of_map fun d r valid stood => Task.Valid.of_run valid stood
  exact ⟨r', ds, at_i', deeds, course⟩

end System

end FillFeed.Client
