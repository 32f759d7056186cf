import Mathlib
import FillFeed.Proofs.Course
import FillFeed.Proofs.Shared
import FillFeed.Proofs.Task.Step

/-!
# Traces

A `System.Trace` is a run of a client that lists, as `Move`s, which call did what at each step.
`System.steps_iff_trace` says that traces and runs are the same, and `System.Trace.course` that the
moves of one call are a course of it, so that what holds of all courses of a call holds of the call
in every run of the client.

`System.play` computes a trace from what the calls are prompted with.
-/

namespace FillFeed.Client

/-- A deed of a call in which its task goes on. -/
def Task.Valid (cfg : Config) (d : Deed Task) : Prop :=
  d.stood.advance cfg d.found d.met = some ⟨d.left, d.goes, d.did⟩

/-- A deed follows the rules. -/
lemma Task.Valid.step {cfg : Config} {d : Deed Task} (valid : Task.Valid cfg d) :
    Task.Step cfg d.found d.stood d.met ⟨d.left, d.goes, d.did⟩ :=
  Task.advance_iff.1 valid

/-- What a task does when it meets something. -/
def Task.deed? (cfg : Config) (found : Shared) (t : Task) (h : Happening) : Option (Deed Task) :=
  (t.advance cfg found h).map fun o => ⟨found, t, h, o.shared, o.next, o.effects⟩

/-- A task does valid deeds only. -/
lemma Task.valid_of_deed? {cfg : Config} {found : Shared} {t : Task} {h : Happening} {d : Deed Task}
    (does : t.deed? cfg found h = some d) :
    Task.Valid cfg d ∧ d.found = found ∧ d.stood = t := by
  obtain ⟨o, goes, rfl⟩ := Option.map_eq_some_iff.1 does
  exact ⟨goes, rfl, rfl⟩

/-- A deed of one of the calls of a client. -/
structure Move where
  task : Nat
  deed : Deed Task

/-- The deeds of one call among some moves. -/
def deedsOf (i : Nat) (ms : List Move) : List (Deed Task) :=
  (ms.filter fun m => m.task = i).map (·.deed)

namespace System

/-- All that was seen of some moves. -/
def seenOf (ms : List Move) : List Effect := seen (ms.map (·.deed))

/-- A run of a client together with the moves that make it up. -/
inductive Trace (cfg : Config) : System → List Move → System → Prop where
  | refl (sys : System) : Trace cfg sys [] sys
  | call {a b : System} {ms : List Move} {t : Task} (run : Trace cfg a ms b)
      (fresh : Task.Fresh cfg t) : Trace cfg a ms ⟨b.shared, b.tasks ++ [t]⟩
  | act {a b : System} {ms : List Move} {i : Nat} {d : Deed Task} (run : Trace cfg a ms b)
      (at_i : b.tasks[i]? = some d.stood) (found : d.found = b.shared) (valid : Task.Valid cfg d) :
      Trace cfg a (ms ++ [⟨i, d⟩]) ⟨d.left, b.tasks.set i d.goes⟩

/-- What may happen to a client: one of its calls is made, or a call in progress meets something. -/
inductive Prompt where
  | connect
  | listen
  | run
  | stop
  | meet (i : Nat) (h : Happening)

/-- The client with one more call. -/
def add (sys : System) (t : Task) : System := ⟨sys.shared, sys.tasks ++ [t]⟩

/-- The moves of a client that is prompted one time after the other, and how it is left. It ends
when a call cannot go on. -/
def play (cfg : Config) (sys : System) : List Prompt → List Move × System
  | [] => ([], sys)
  | .connect :: ps => play cfg (sys.add (.connect (Connect.start cfg))) ps
  | .listen :: ps => play cfg (sys.add (.listen .taking)) ps
  | .run :: ps => play cfg (sys.add (.run (Run.start cfg))) ps
  | .stop :: ps => play cfg (sys.add (.stop .signalling)) ps
  | .meet i h :: ps =>
    match sys.tasks[i]?.bind fun t => t.deed? cfg sys.shared h with
    | none => ([], sys)
    | some d =>
      (⟨i, d⟩ :: (play cfg ⟨d.left, sys.tasks.set i d.goes⟩ ps).1,
        (play cfg ⟨d.left, sys.tasks.set i d.goes⟩ ps).2)

section

variable {cfg : Config} {a b c : System} {ms xs ys : List Move} {i : Nat} {t : Task}

/-- What a last move adds to what was seen. -/
lemma seenOf_concat (ms : List Move) (m : Move) : seenOf (ms ++ [m]) = seenOf ms ++ m.deed.did := by
  simp [seenOf]

/-- The runs of a client are its traces, and what is seen of a run is what is seen of its moves. -/
lemma steps_iff_trace {es : List Effect} :
    Steps cfg a es b ↔ ∃ ms, Trace cfg a ms b ∧ es = seenOf ms := by
  constructor
  · intro run
    induction run with
    | refl => exact ⟨[], .refl _, rfl⟩
    | @tail b _ _ _ _ step ih =>
      obtain ⟨ms, trace, rfl⟩ := ih
      cases step with
      | call fresh => exact ⟨ms, trace.call fresh, by simp⟩
      | @act i t h o at_i goes =>
        let d : Deed Task := ⟨b.shared, t, h, o.shared, o.next, o.effects⟩
        have act := @Trace.act _ _ _ _ _ d trace at_i rfl goes
        exact ⟨_, act, (seenOf_concat ms ⟨i, d⟩).symm⟩
  · rintro ⟨ms, trace, rfl⟩
    induction trace with
    | refl => exact .refl _
    | call _ fresh ih => simpa using ih.tail (.call fresh)
    | @act b _ i d _ at_i found valid ih =>
      have goes : d.stood.advance cfg b.shared d.met = some ⟨d.left, d.goes, d.did⟩ :=
        found ▸ show d.stood.advance cfg d.found d.met = _ from valid
      rw [seenOf_concat]
      exact ih.tail (.act at_i goes)

/-- A trace goes on with another one. -/
lemma Trace.append (first : Trace cfg a xs b) (second : Trace cfg b ys c) :
    Trace cfg a (xs ++ ys) c := by
  induction second with
  | refl => simpa using first
  | call _ fresh ih => exact ih.call fresh
  | act _ at_i found valid ih =>
    rw [← List.append_assoc]
    exact ih.act at_i found valid

/-- Calls stay where they are among the calls of a client. -/
lemma Trace.length_le (run : Trace cfg a ms b) : a.tasks.length ≤ b.tasks.length := by
  induction run with
  | refl => exact le_rfl
  | call _ _ ih => exact ih.trans (by simp)
  | act _ _ _ _ ih => simpa using ih

/-- Among some moves and one more, the deeds of a call. -/
lemma deedsOf_concat (i j : Nat) (d : Deed Task) (ms : List Move) :
    deedsOf i (ms ++ [⟨j, d⟩]) = if j = i then deedsOf i ms ++ [d] else deedsOf i ms := by
  split
  · rename_i same
    simp [deedsOf, same]
  · rename_i other
    simp [deedsOf, other]

/-- A call that has not been made yet has done nothing. -/
lemma Trace.deedsOf_eq_nil (run : Trace cfg a ms b) (absent : b.tasks.length ≤ i) :
    deedsOf i ms = [] := by
  induction run with
  | refl => rfl
  | call _ _ ih => exact ih ((Nat.le_succ _).trans (by simpa using absent))
  | @act b ms j d _ at_j _ _ ih =>
    have lt : j < b.tasks.length := (List.getElem?_eq_some_iff.1 at_j).1
    have le : b.tasks.length ≤ i := by simpa using absent
    rw [deedsOf_concat, if_neg (by omega)]
    exact ih le

/-- The moves of one call are a course of it, from where it stood or from its beginning. -/
lemma Trace.course_to (run : Trace cfg a ms b) (at_i : b.tasks[i]? = some t) :
    ∃ t₀, (a.tasks[i]? = some t₀ ∨ (a.tasks.length ≤ i ∧ Task.Fresh cfg t₀)) ∧
      Course (Task.Valid cfg) t₀ (deedsOf i ms) t := by
  induction run generalizing t with
  | refl => exact ⟨t, .inl at_i, .refl t⟩
  | @call b ms t' run fresh ih =>
    obtain lt | le := Nat.lt_or_ge i b.tasks.length
    · rw [List.getElem?_append_left lt] at at_i
      exact ih at_i
    -- the call that is made here has done nothing yet
    · rw [List.getElem?_append_right le] at at_i
      cases List.mem_singleton.1 (List.mem_of_getElem? at_i)
      rw [run.deedsOf_eq_nil le]
      exact ⟨t', .inr ⟨run.length_le.trans le, fresh⟩, .refl t'⟩
  | @act b ms j d _ at_j _ valid ih =>
    rw [deedsOf_concat]
    split
    · rename_i same
      subst same
      have lt : j < b.tasks.length := (List.getElem?_eq_some_iff.1 at_j).1
      cases (List.getElem?_set_self lt).symm.trans at_i
      obtain ⟨t₀, start, course⟩ := ih at_j
      exact ⟨t₀, start, course.tail valid⟩
    -- a move of another call leaves this one where it stands
    · rename_i other
      rw [List.getElem?_set_ne other] at at_i
      exact ih at_i

/-- The moves of a call in progress are a course of it. -/
lemma Trace.course (run : Trace cfg a ms b) (at_i : a.tasks[i]? = some t) :
    ∃ t', b.tasks[i]? = some t' ∧ Course (Task.Valid cfg) t (deedsOf i ms) t' := by
  have lt : i < a.tasks.length := (List.getElem?_eq_some_iff.1 at_i).1
  obtain ⟨t', at_i'⟩ : ∃ t', b.tasks[i]? = some t' :=
    ⟨_, List.getElem?_eq_getElem (lt.trans_le run.length_le)⟩
  obtain ⟨t₀, here | ⟨later, -⟩, course⟩ := run.course_to at_i'
  · cases here.symm.trans at_i
    exact ⟨_, at_i', course⟩
  · exact absurd lt (Nat.not_lt.2 later)

/-- A trace comes to each of its moves, and goes on from there. -/
lemma Trace.through {m : Move} (run : Trace cfg a (xs ++ m :: ys) b) :
    ∃ mid, Trace cfg a xs mid ∧ mid.tasks[m.task]? = some m.deed.stood ∧
      m.deed.found = mid.shared ∧ Task.Valid cfg m.deed ∧
      Trace cfg ⟨m.deed.left, mid.tasks.set m.task m.deed.goes⟩ ys b := by
  generalize e : xs ++ m :: ys = ms at run
  induction run generalizing ys with
  | refl => simp at e
  | call _ fresh ih =>
    obtain ⟨mid, before, at_m, found, valid, after⟩ := ih e
    exact ⟨mid, before, at_m, found, valid, after.call fresh⟩
  | @act b ms i d run at_i found valid ih =>
    obtain rfl | ⟨ys, last, rfl⟩ := ys.eq_nil_or_concat
    · obtain ⟨rfl, rfl⟩ := List.append_singleton_inj.1 e
      exact ⟨b, run, at_i, found, valid, .refl _⟩
    · rw [List.concat_eq_append, ← List.cons_append, ← List.append_assoc] at e
      obtain ⟨init, rfl⟩ := List.append_singleton_inj.1 e
      obtain ⟨mid, before, at_m, found', valid', after⟩ := ih init
      rw [List.concat_eq_append]
      exact ⟨mid, before, at_m, found', valid', after.act at_i found valid⟩

/-- A trace comes to each of its moves. -/
lemma Trace.at_move {m : Move} (run : Trace cfg a (xs ++ m :: ys) b) :
    ∃ mid, Trace cfg a xs mid ∧ mid.tasks[m.task]? = some m.deed.stood ∧
      m.deed.found = mid.shared ∧ Task.Valid cfg m.deed := by
  obtain ⟨mid, before, at_m, found, valid, -⟩ := run.through
  exact ⟨mid, before, at_m, found, valid⟩

/-- What is played is a trace. -/
lemma Trace.of_play (cfg : Config) (sys : System) (ps : List Prompt) :
    Trace cfg sys (play cfg sys ps).1 (play cfg sys ps).2 := by
  induction ps generalizing sys with
  | nil => exact .refl sys
  | cons p ps ih =>
    have called {t : Task} (fresh : Task.Fresh cfg t) : Trace cfg sys [] (sys.add t) :=
      (Trace.refl sys).call fresh
    cases p with
    | connect => exact (called .connect).append (ih _)
    | listen => exact (called .listen).append (ih _)
    | run => exact (called .run).append (ih _)
    | stop => exact (called .stop).append (ih _)
    | meet i h =>
      cases e : sys.tasks[i]?.bind fun t => t.deed? cfg sys.shared h with
      | none =>
        simp only [play, e]
        exact .refl sys
      | some d =>
        obtain ⟨t, at_i, does⟩ := Option.bind_eq_some_iff.1 e
        obtain ⟨valid, found, rfl⟩ := Task.valid_of_deed? does
        simp only [play, e]
        exact ((Trace.refl sys).act at_i found valid).append (ih _)

end

end System

end FillFeed.Client
