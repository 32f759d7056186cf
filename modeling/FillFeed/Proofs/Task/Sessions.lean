import Mathlib
import FillFeed.Proofs.Connect.Handshake
import FillFeed.Proofs.Task.Calls
import FillFeed.Proofs.Task.Transports

/-!
# Sessions

In every run of a client the conversation over a transport is the handshake of the attempt that
opened it, and then what the listener hears and says that took the session over
(`System.Trace.conversing`). The reason is that a transport belongs to one call at a time
(`System.Trace.held_once`), so that no other call can take a frame from it or send a text over it.
-/

namespace FillFeed

/-- What passes over one transport. -/
def passing (t : TransportId) (es : List Effect) : List Passage :=
  ((passages es).filter (·.1 = t)).map (·.2)

/-- What passes over a transport is put together like what is done. -/
@[simp] lemma passing_append (t : TransportId) (xs ys : List Effect) :
    passing t (xs ++ ys) = passing t xs ++ passing t ys := by
  simp [passing]

/-- Whether a transport is opened. -/
def Passage.isOpened : Passage → Bool
  | .opened => true
  | _ => false

/-- The opening of a transport is part of what passes over it. -/
lemma openings_eq_filterMap (es : List Effect) :
    openings es = (passages es).filterMap fun x => if x.2.isOpened then some x.1 else none := by
  rw [openings, passages, List.filterMap_filterMap]
  congr 1
  funext e
  cases e with
  | began call => cases call <;> rfl
  | _ => rfl

/-- Nothing passes over a transport if and only if all passages belong to others. -/
lemma passing_eq_nil_iff {t : TransportId} {es : List Effect} :
    passing t es = [] ↔ ∀ x ∈ passages es, x.1 ≠ t := by
  simp [passing]

/-- Where everything passes over one transport, it is all there is. -/
lemma map_passing {t : TransportId} {es : List Effect} (all : ∀ x ∈ passages es, x.1 = t) :
    (passing t es).map (t, ·) = passages es := by
  have same : (passages es).map ((t, ·) ∘ (·.2)) = (passages es).map id :=
    List.map_congr_left fun x mem => Prod.ext (all x mem).symm rfl
  rw [passing, List.filter_eq_self.2 fun x mem => decide_eq_true (all x mem), List.map_map, same,
    List.map_id]

namespace Client

/-- The attempt of a call that connects, or the session that it ended with. -/
def Connect.progress? : Connect → Option Attempt.Progress
  | .attempting _ a => some (.waits a)
  | .parking s => some (.done (.ok s))
  | _ => none

/-- The attempt of a task, or the session that it ended with. -/
def Task.progress? : Task → Option Attempt.Progress
  | .connect c | .run (.connecting c) => c.progress?
  | _ => none

/-- A task that listens to a session. -/
def Task.Serves (s : Session) : Task → Prop
  | .listen l | .run (.listening l) => Listen.Serves s l
  | _ => False

/-- Whether a task is a call that listens. -/
def Task.listens : Task → Bool
  | .listen _ | .run (.listening _) => true
  | _ => false

/-- What a step of a task means for conversations: its attempt goes on with one of its own, a
listener goes on with the one of its session, or nothing passes, and what is parked or listened to
then was at hand before. -/
inductive Task.Converses (cfg : Config) (shared : Shared) (t : Task) (h : Happening)
    (o : Task.Outcome) : Prop where
  | attempts (a : Attempt) (o' : Attempt.Outcome) (has : t.progress? = some (.waits a))
      (st : Attempt.Step cfg shared a h o') (same : passages o.effects = passages o'.effects)
      (slot : o.shared.slot = shared.slot) (next : ∀ p, o.next.progress? = some p → p = o'.progress)
      (unserved : ∀ s, ¬o.next.Serves s)
  | serves (s : Session) (serves : t.Serves s) (own : ∀ x ∈ passages o.effects, x.1 = s.transport)
      (slot : o.shared.slot = shared.slot) (next : ∀ s', o.next.Serves s' → s' = s)
      (idle : o.next.progress? = none)
  | quiet (quiet : passages o.effects = [])
      (slot : ∀ s, o.shared.slot = some s →
        shared.slot = some s ∨ t.progress? = some (.done (.ok s)))
      (fresh : ∀ p, o.next.progress? = some p → p.held = [])
      (next : ∀ s, o.next.Serves s → shared.slot = some s)

section

variable {cfg : Config} {shared : Shared} {h : Happening}

/-- What subscribing adds passes over the transport of the attempt. -/
lemma Attempt.fst_of_subscribe {key : ApprovalKey} {t : TransportId} {codec : Codec}
    {effects : List Effect} {rest : List Subscription} {x : TransportId × Passage}
    (mem : x ∈ passages (subscribe shared key t codec effects rest).effects) :
    x ∈ passages effects ∨ x.1 = t := by
  cases rest with
  | nil => exact .inl mem
  | cons s rest =>
    simp only [subscribe, passages_append, passages_sendText, passages_nil, List.mem_append,
      List.mem_singleton] at mem
    obtain before | rfl := mem
    · exact .inl before
    · exact .inr rfl

/-- An attempt goes on over the transport that it has, or over the one that it opens. -/
lemma Attempt.Step.passing_held {a : Attempt} {o : Attempt.Outcome}
    (st : Attempt.Step cfg shared a h o) {t : TransportId} (mem : t ∈ o.progress.held) :
    (∀ x ∈ passages o.effects, x.1 = t) ∧
      (t ∈ a.held ∨ (t ∈ openings o.effects ∧ Talk cfg [] (.waits a))) := by
  cases st with
  | opened =>
    rw [subscribe_held, List.mem_singleton] at mem
    subst mem
    rw [openings, filterMap_subscribe fun _ _ => rfl]
    refine ⟨?_, .inr ⟨List.mem_cons_self, .opening⟩⟩
    intro x passes
    obtain before | own := fst_of_subscribe passes
    · simp only [passages_opened, passages_setState, List.mem_singleton] at before
      rw [before]
    · exact own
  | accepted =>
    rw [subscribe_held, List.mem_singleton] at mem
    subst mem
    refine ⟨?_, .inl (List.mem_singleton_self _)⟩
    intro x passes
    obtain before | own := fst_of_subscribe passes
    · simp only [passages_took, passages_noted, passages_nil, List.mem_singleton] at before
      rw [before]
    · exact own
  | sent => exact ⟨by simp, .inl mem⟩
  | ponged =>
    have own := List.mem_singleton.1 mem
    exact ⟨by simp [own], .inl mem⟩
  | _ => cases mem

/-- What passes in a step of an attempt does so over its transport or over the one that it opens. -/
lemma Attempt.Step.fst_of_passages {a : Attempt} {o : Attempt.Outcome}
    (st : Attempt.Step cfg shared a h o) {x : TransportId × Passage}
    (mem : x ∈ passages o.effects) : x.1 ∈ a.held ∨ x.1 ∈ openings o.effects := by
  cases st with
  | obtaining st | unobtained st =>
    rw [st.passages_eq] at mem
    cases mem
  | obtained st => simp [st.passages_eq] at mem
  | @opened key =>
    right
    rw [openings, filterMap_subscribe fun _ _ => rfl, ← openings]
    obtain before | own := fst_of_subscribe mem
    · simp only [passages_opened, passages_setState, List.mem_singleton] at before
      rw [before]
      exact List.mem_cons_self
    · rw [own]
      exact List.mem_cons_self
  | accepted =>
    left
    obtain before | own := fst_of_subscribe mem
    · simp only [passages_took, passages_noted, passages_nil, List.mem_singleton] at before
      rw [before]
      exact List.mem_singleton_self _
    · rw [own]
      exact List.mem_singleton_self _
  | ponged | rejected =>
    left
    simp only [passages_took, passages_receive, passages_close, passages_nil,
      List.mem_singleton] at mem
    rw [mem]
    exact List.mem_singleton_self _
  | _ => simp at mem

/-- A call that connects goes on with its attempt, or with nothing that passes over a transport. -/
lemma Connect.Step.converses {c : Connect} {o : Connect.Outcome}
    (st : Connect.Step cfg shared c h o) :
    (∃ a o', c.progress? = some (.waits a) ∧ Attempt.Step cfg shared a h o' ∧
        passages o.effects = passages o'.effects ∧ o.shared.slot = shared.slot ∧
        ∀ p, o.next.progress? = some p → p = o'.progress) ∨
      (passages o.effects = [] ∧ (∀ p, o.next.progress? = some p → p.held = []) ∧
        ∀ s, o.shared.slot = some s →
          shared.slot = some s ∨ c.progress? = some (.done (.ok s))) := by
  -- most rules are silent, end without an attempt, and leave the slot alone
  have silent {next : Connect} {left : Shared} {did : List Effect} (quiet : passages did = [])
      (idle : next.progress? = none) (slot : left.slot = shared.slot) :
      passages did = [] ∧ (∀ p, next.progress? = some p → p.held = []) ∧
        ∀ s, left.slot = some s → shared.slot = some s ∨ c.progress? = some (.done (.ok s)) := by
    refine ⟨quiet, ?_, fun s full => .inl (slot ▸ full)⟩
    intro p has
    cases idle.symm.trans has
  cases st with
  | attempting st => exact .inl ⟨_, _, rfl, st, rfl, st.shared_eq.1, by simp [progress?]⟩
  | succeeded st => exact .inl ⟨_, _, rfl, st, rfl, st.shared_eq.1, by simp [progress?]⟩
  | @failed retry a _ shared' cause effects st =>
    have same : passages (Connect.failed cfg shared' retry cause effects).effects =
        passages effects := filterMap_failed (fun _ => rfl) (fun _ => rfl) (fun _ => rfl) rfl
    refine .inl ⟨_, _, rfl, st, same, ?_, ?_⟩
    · rw [failed_shared, Shared.setState_slot]
      exact st.shared_eq.1
    · obtain ⟨rejection, -, e⟩ | ⟨-, e⟩ := failed_cases cfg shared' retry cause effects
      · simp [e, progress?]
      · simp [e, progress?]
  | @launched retry carried =>
    refine .inr ⟨?_, ?_, fun s full => .inl full⟩
    · cases carried <;> rfl
    · rintro p ⟨⟩
      cases carried <;> rfl
  | announced => exact .inr (silent (by simp) rfl Shared.setState_slot)
  | reissuing st => exact .inr (silent st.passages_eq rfl rfl)
  | reissued st => exact .inr (silent st.passages_eq rfl rfl)
  | unreissued st => exact .inr (silent (by simp [st.passages_eq]) rfl rfl)
  | parked =>
    refine .inr ⟨rfl, by simp [progress?], ?_⟩
    rintro s ⟨⟩
    exact .inr rfl
  | parkedOver =>
    refine .inr ⟨rfl, by simp [progress?], ?_⟩
    rintro s ⟨⟩
    exact .inr rfl
  | replaced => exact .inr (silent (passages_closeNotices _) rfl rfl)
  | discarded => exact .inr (silent (passages_closeNotices _) rfl rfl)
  | gone empty => exact .inr (silent rfl rfl empty.symm)
  | withdrawn => exact .inr ⟨rfl, by simp [progress?], by simp⟩
  | published => exact .inr (silent (by simp) rfl Shared.setState_slot)
  | _ => exact .inr (silent rfl rfl rfl)

/-- A call that listens goes on with the conversation of its session, or with nothing that passes
over a transport. -/
lemma Listen.Step.converses {l : Listen} {o : Listen.Outcome} (st : Listen.Step cfg shared l h o) :
    (∃ s, Serves s l ∧ (∀ x ∈ passages o.effects, x.1 = s.transport) ∧
        o.shared.slot = shared.slot ∧ ∀ s', Serves s' o.next → s' = s) ∨
      (passages o.effects = [] ∧ (∀ s, o.shared.slot = some s → shared.slot = some s) ∧
        ∀ s, Serves s o.next → shared.slot = some s) := by
  cases st with
  | unconnected =>
    refine .inr ⟨rfl, by simp, ?_⟩
    rintro s ⟨⟩
  | took full =>
    refine .inr ⟨rfl, by simp, ?_⟩
    rintro s ⟨⟩
    exact full
  | crashed =>
    refine .inl ⟨_, .starting, by simp, rfl, ?_⟩
    rintro s' ⟨⟩
  | started =>
    refine .inl ⟨_, .starting, by simp, rfl, ?_⟩
    rintro s' ⟨⟩
    rfl
  | cancelled | pinging | silent | ponged | skipped | echoing | controlled | handling | ended
  | unreceived =>
    refine .inl ⟨_, .polling, by simp [passages, List.filterMap_cons, Effect.passage?], rfl, ?_⟩
    rintro s' ⟨⟩ <;> rfl
  | pinged | unpinged =>
    refine .inl ⟨_, .pinging, by simp, rfl, ?_⟩
    rintro s' ⟨⟩ <;> rfl
  | echoed | unechoed =>
    refine .inl ⟨_, .echoing, by simp, rfl, ?_⟩
    rintro s' ⟨⟩ <;> rfl
  | handled | unhandled =>
    refine .inl ⟨_, .handling, by simp, rfl, ?_⟩
    rintro s' ⟨⟩
    rfl
  | closed =>
    refine .inr ⟨?_, by simp, ?_⟩
    · rw [passages, filterMap_conclude (fun _ _ => rfl) (fun _ => rfl) fun _ => rfl]
      exact passages_closeNotices _
    · rw [conclude_next]
      rintro s ⟨⟩
  | closedLate =>
    refine .inr ⟨?_, by simp, ?_⟩
    · rw [passages, filterMap_conclude (fun _ _ => rfl) (fun _ => rfl) fun _ => rfl]
      rfl
    · rw [conclude_next]
      rintro s ⟨⟩

/-- A call that stops the client lets nothing pass and parks no session. -/
lemma Stop.Step.converses {s : Stop} {o : Stop.Outcome} (st : Stop.Step cfg shared s h o) :
    passages o.effects = [] ∧ ∀ s, o.shared.slot = some s → shared.slot = some s := by
  cases st with
  | published =>
    obtain e | e := shared.shutDown_cases
    · rw [e]
      exact ⟨rfl, fun _ => id⟩
    · rw [e]
      exact ⟨rfl, fun _ => id⟩
  | closed =>
    rw [passages_append, passages_closeNotices]
    exact ⟨rfl, fun _ => id⟩
  | unparked | took => exact ⟨rfl, by simp⟩
  | _ => exact ⟨rfl, fun _ => id⟩

/-- A call that keeps the feed running has the attempt, or the session, that its connecting has. -/
lemma Task.progress?_afterConnect (c : Connect) :
    (Task.run (Run.afterConnect c)).progress? = c.progress? := by
  unfold Run.afterConnect
  split <;> rfl

/-- A call that is done with connecting does not listen yet. -/
lemma Task.not_serves_afterConnect (c : Connect) (s : Session) :
    ¬(Task.run (Run.afterConnect c)).Serves s := by
  unfold Run.afterConnect
  split
  · rintro ⟨⟩
  · exact id
  · exact id
  · exact id

/-- A call that is done with a step of listening has no attempt, and listens to the session that it
listened to. -/
lemma Task.converses_afterListen (l : Listen) :
    (Task.run (Run.afterListen l)).progress? = none ∧
      ∀ s, (Task.run (Run.afterListen l)).Serves s → Listen.Serves s l := by
  unfold Run.afterListen
  split
  · exact ⟨rfl, fun _ => False.elim⟩
  · exact ⟨rfl, fun _ => False.elim⟩
  · exact ⟨rfl, fun _ => id⟩

/-- Every task goes on with its own conversation, or with nothing that passes over a transport. -/
lemma Task.Step.converses {t : Task} {o : Task.Outcome} (st : Task.Step cfg shared t h o) :
    Task.Converses cfg shared t h o := by
  cases st with
  | connect st =>
    obtain ⟨a, o', has, step, same, slot, next⟩ | ⟨quiet, fresh, slot⟩ := st.converses
    · exact .attempts a o' has step same slot next fun _ => id
    · exact .quiet quiet slot fresh fun _ => False.elim
  | listen st =>
    obtain ⟨s, serves, own, slot, next⟩ | ⟨quiet, slot, next⟩ := st.converses
    · exact .serves s serves own slot next rfl
    · exact .quiet quiet (fun s full => .inl (slot s full)) (fun _ has => nomatch has) next
  | run st =>
    cases st with
    | @connecting c h o st =>
      obtain ⟨a, o', has, step, same, slot, next⟩ | ⟨quiet, fresh, slot⟩ := st.converses
      · rw [← Task.progress?_afterConnect] at next
        exact .attempts a o' has step same slot next (Task.not_serves_afterConnect _)
      · rw [← Task.progress?_afterConnect] at fresh
        exact .quiet quiet slot fresh fun s serves =>
          absurd serves (Task.not_serves_afterConnect _ s)
    | @listening l h o st =>
      obtain ⟨idle, goes⟩ := Task.converses_afterListen o.next
      have silent : passages (Run.listenEffects o.next) = [] := Run.filterMap_listenEffects rfl
      have same : passages (o.effects ++ Run.listenEffects o.next) = passages o.effects := by
        rw [passages_append, silent, List.append_nil]
      obtain ⟨s, serves, own, slot, next⟩ | ⟨quiet, slot, next⟩ := st.converses
      · exact .serves s serves (same ▸ own) slot (fun s' serves' => next s' (goes s' serves')) idle
      · refine .quiet (same.trans quiet) (fun s full => .inl (slot s full)) ?_
          fun s serves => next s (goes s serves)
        intro p has
        cases idle.symm.trans has
    | stopped =>
      exact .quiet rfl (fun _ full => .inl full) (fun _ has => nomatch has) fun _ => False.elim
    | restarted =>
      exact .quiet rfl (fun _ full => .inl full) (fun _ has => nomatch has) fun _ => False.elim
  | stop st =>
    obtain ⟨quiet, slot⟩ := st.converses
    exact .quiet quiet (fun s full => .inl (slot s full)) (fun _ has => nomatch has)
      fun _ => False.elim

/-- A task with an attempt holds the transport of it, and does not listen. -/
lemma Task.held_of_progress {t : Task} {p : Attempt.Progress} (has : t.progress? = some p) :
    t.held = p.held ∧ t.listens = false := by
  cases t with
  | connect c =>
    cases c with
    | attempting | parking => cases has; exact ⟨rfl, rfl⟩
    | _ => cases has
  | run r =>
    cases r with
    | connecting c =>
      cases c with
      | attempting | parking => cases has; exact ⟨rfl, rfl⟩
      | _ => cases has
    | _ => cases has
  | _ => cases has

/-- A task that listens to a session holds its transport. -/
lemma Task.held_of_serves {t : Task} {s : Session} (serves : t.Serves s) :
    t.held = [s.transport] ∧ t.listens = true := by
  cases t with
  | listen l => cases serves <;> exact ⟨rfl, rfl⟩
  | run r =>
    cases r with
    | listening l => cases serves <;> exact ⟨rfl, rfl⟩
    | _ => exact serves.elim
  | _ => exact serves.elim

/-- What passes in a step does so over a transport that the task holds or over one that it opens. -/
lemma Task.Step.fst_of_passages {t : Task} {o : Task.Outcome} (st : Task.Step cfg shared t h o)
    {x : TransportId × Passage} (mem : x ∈ passages o.effects) :
    x.1 ∈ t.held ∨ x.1 ∈ openings o.effects := by
  cases st.converses with
  | attempts a o' has step same =>
    rw [(Task.held_of_progress has).1, openings_eq_filterMap, same, ← openings_eq_filterMap]
    exact step.fst_of_passages (same ▸ mem)
  | serves s serves own =>
    rw [(Task.held_of_serves serves).1, own x mem]
    exact .inl (List.mem_singleton_self _)
  | quiet quiet =>
    rw [quiet] at mem
    cases mem

end

namespace System

variable {cfg : Config} {sys : System} {ms : List Move} {i : Nat} {d : Deed Task} {t : TransportId}

/-- What passes over a transport while its session is listened to. -/
def heard (t : TransportId) (ms : List Move) : List Passage :=
  passing t (seenOf (ms.filter fun m => m.deed.stood.listens))

/-- A session that is parked or listened to. -/
def Ready (sys : System) (s : Session) : Prop :=
  sys.shared.slot = some s ∨ ∃ task ∈ sys.tasks, task.Serves s

/-- Every conversation so far is the one of an attempt, or the one of a session and what was heard
from then on. -/
structure Conversing (cfg : Config) (ms : List Move) (sys : System) : Prop where
  attempting : ∀ task ∈ sys.tasks, ∀ p, task.progress? = some p → ∀ t ∈ p.held,
    heard t ms = [] ∧ Attempt.Talk cfg ((passing t (seenOf ms)).map (t, ·)) p
  parked : ∀ s, sys.shared.slot = some s → heard s.transport ms = [] ∧
    Attempt.Talk cfg ((passing s.transport (seenOf ms)).map (s.transport, ·)) (.done (.ok s))
  serving : ∀ task ∈ sys.tasks, ∀ s, task.Serves s →
    ∃ log, passing s.transport (seenOf ms) = log ++ heard s.transport ms ∧
      Attempt.Talk cfg (log.map (s.transport, ·)) (.done (.ok s))

/-- What a last deed lets pass is heard if the task listens. -/
lemma heard_concat (t : TransportId) (ms : List Move) (i : Nat) (d : Deed Task) :
    heard t (ms ++ [⟨i, d⟩]) =
      heard t ms ++ if d.stood.listens then passing t d.did else [] := by
  cases e : d.stood.listens <;> simp [heard, List.filter_append, e, seenOf]

/-- A transport is parked or held by a call, and not twice. -/
lemma Trace.held_once (run : Trace cfg initial ms sys) (t : TransportId) :
    sys.shared.parked.count t + (sys.tasks.flatMap Task.held).count t ≤ 1 := by
  have fates := run.fates t
  omega

/-- A transport that is parked or held was opened. -/
lemma Trace.mem_openings (run : Trace cfg initial ms sys)
    (mem : t ∈ sys.shared.parked ∨ ∃ task ∈ sys.tasks, t ∈ task.held) :
    t ∈ openings (seenOf ms) := by
  have balance := run.balance t
  refine List.count_pos_iff.1 ?_
  obtain parked | ⟨task, mem, held⟩ := mem
  · have := List.count_pos_iff.2 parked
    omega
  · have := List.count_pos_iff.2 (List.mem_flatMap.2 ⟨task, mem, held⟩)
    omega

/-- What a call holds is not parked, and no other call holds it. -/
lemma Trace.elsewhere {task : Task} (run : Trace cfg initial ms sys)
    (at_i : sys.tasks[i]? = some task) (mem : t ∈ task.held) :
    t ∉ sys.shared.parked ∧ ∀ j task', sys.tasks[j]? = some task' → t ∈ task'.held → j = i := by
  have once := run.held_once t
  have held := List.count_pos_iff.2 mem
  -- what is left to count when the call is taken away
  have without : ((sys.tasks.set i (.stop .signalling)).flatMap Task.held).count t +
      task.held.count t = (sys.tasks.flatMap Task.held).count t + [].count t :=
    count_flatMap_set at_i t
  rw [List.count_nil] at without
  refine ⟨?_, ?_⟩
  · intro parked
    have := List.count_pos_iff.2 parked
    omega
  · intro j task' at_j mem'
    by_contra ne
    have other : task' ∈ sys.tasks.set i (.stop .signalling) :=
      List.mem_iff_getElem?.2 ⟨j, by rw [List.getElem?_set_ne (Ne.symm ne), at_j]⟩
    have := List.count_pos_iff.2 (List.mem_flatMap.2 ⟨task', other, mem'⟩)
    omega

/-- Whatever passes does so over a transport that has been opened. -/
lemma Trace.fst_mem_openings (run : Trace cfg initial ms sys) {x : TransportId × Passage}
    (mem : x ∈ passages (seenOf ms)) : x.1 ∈ openings (seenOf ms) := by
  induction run with
  | refl => cases mem
  | call _ _ ih => exact ih mem
  | act run at_i found valid ih =>
    rw [seenOf_concat, passages_append] at mem
    rw [seenOf_concat, openings_append]
    obtain before | now := List.mem_append.1 mem
    · exact List.mem_append_left _ (ih before)
    · obtain held | opened := valid.step.fst_of_passages now
      · refine List.mem_append_left _ (run.mem_openings (.inr ⟨_, ?_, held⟩))
        exact List.mem_iff_getElem?.2 ⟨_, at_i⟩
      · exact List.mem_append_right _ opened

/-- No transport is opened twice. -/
lemma Trace.not_reopened (run : Trace cfg initial ms sys) (at_i : sys.tasks[i]? = some d.stood)
    (found : d.found = sys.shared) (valid : Task.Valid cfg d) (mem : t ∈ openings (seenOf ms)) :
    t ∉ openings d.did := by
  have once : (openings (seenOf (ms ++ [⟨i, d⟩]))).Nodup := by
    rw [(run.act at_i found valid).openings_eq]
    exact List.nodup_range'
  rw [seenOf_concat, openings_append] at once
  exact fun again => (List.disjoint_of_nodup_append once) mem again

/-- Nothing passes over a transport when a call moves that does not hold it. -/
lemma Trace.passing_eq_nil (run : Trace cfg initial ms sys) (at_i : sys.tasks[i]? = some d.stood)
    (found : d.found = sys.shared) (valid : Task.Valid cfg d) (mem : t ∈ openings (seenOf ms))
    (other : t ∉ d.stood.held) : passing t d.did = [] := by
  refine passing_eq_nil_iff.2 ?_
  rintro x passes rfl
  obtain held | opened := valid.step.fst_of_passages passes
  · exact other held
  · exact run.not_reopened at_i found valid mem opened

/-- Where nothing passes nothing is heard. -/
lemma heard_eq_nil (none : passing t (seenOf ms) = []) : heard t ms = [] := by
  rw [heard, passing_eq_nil_iff]
  intro x mem
  obtain ⟨e, seen, passes⟩ := List.mem_filterMap.1 mem
  obtain ⟨d, of_listener, does⟩ := List.mem_flatMap.1 seen
  have among : d ∈ ms.map (·.deed) := List.map_subset _ (List.filter_subset_self _) of_listener
  refine passing_eq_nil_iff.1 none x (List.mem_filterMap.2 ⟨e, ?_, passes⟩)
  exact List.mem_flatMap.2 ⟨d, among, does⟩

section

variable {p : Attempt.Progress} {s : Session}

/-- A move of an attempt goes on with its conversation. -/
lemma Conversing.of_attempts (conv : Conversing cfg ms sys) (run : Trace cfg initial ms sys)
    (at_i : sys.tasks[i]? = some d.stood) (found : d.found = sys.shared) (valid : Task.Valid cfg d)
    {a : Attempt} {o : Attempt.Outcome} (has : d.stood.progress? = some (.waits a))
    (st : Attempt.Step cfg d.found a d.met o) (same : passages d.did = passages o.effects)
    (mem : t ∈ o.progress.held) :
    heard t (ms ++ [⟨i, d⟩]) = [] ∧
      Attempt.Talk cfg ((passing t (seenOf (ms ++ [⟨i, d⟩]))).map (t, ·)) o.progress := by
  have stood : d.stood ∈ sys.tasks := List.mem_iff_getElem?.2 ⟨i, at_i⟩
  obtain ⟨own, here⟩ := st.passing_held mem
  -- whether the transport was at hand or is opened just now, the attempt has its conversation
  have before : heard t ms = [] ∧
      Attempt.Talk cfg ((passing t (seenOf ms)).map (t, ·)) (.waits a) := by
    obtain held | ⟨opened, talk⟩ := here
    · exact conv.attempting d.stood stood _ has t held
    · have new : passing t (seenOf ms) = [] := by
        refine passing_eq_nil_iff.2 ?_
        rintro x passes rfl
        rw [openings_eq_filterMap, ← same, ← openings_eq_filterMap] at opened
        exact run.not_reopened at_i found valid (run.fst_mem_openings passes) opened
      rw [new]
      exact ⟨heard_eq_nil new, talk⟩
  constructor
  · rw [heard_concat, before.1, (Task.held_of_progress has).2]
    rfl
  · rw [← same] at own
    rw [seenOf_concat, passing_append, List.map_append, map_passing own, same]
    exact st.talk before.2

/-- A deed that lets nothing pass over a transport changes neither what has passed nor what was
heard. -/
lemma passing_concat (i : Nat) (ms : List Move) (quiet : passing t d.did = []) :
    passing t (seenOf (ms ++ [⟨i, d⟩])) = passing t (seenOf ms) ∧
      heard t (ms ++ [⟨i, d⟩]) = heard t ms := by
  rw [seenOf_concat, heard_concat, passing_append, quiet, ite_self, List.append_nil,
    List.append_nil]
  exact ⟨rfl, rfl⟩

/-- A member of a list with one entry replaced is the new entry, or stands elsewhere. -/
lemma mem_set_cases {α : Type} {x y : α} {xs : List α} {i : Nat} (mem : x ∈ xs.set i y) :
    x = y ∨ ∃ j, j ≠ i ∧ xs[j]? = some x := by
  obtain ⟨j, at_j⟩ := List.mem_iff_getElem?.1 mem
  by_cases same : i = j
  · rw [same, List.getElem?_set_self'] at at_j
    obtain ⟨_, -, rfl⟩ := Option.map_eq_some_iff.1 at_j
    exact .inl rfl
  · rw [List.getElem?_set_ne same] at at_j
    exact .inr ⟨j, Ne.symm same, at_j⟩

section

variable {task : Task}

/-- Nothing passes over a transport that another task holds. -/
lemma Trace.passing_elsewhere (run : Trace cfg initial ms sys)
    (at_i : sys.tasks[i]? = some d.stood) (found : d.found = sys.shared) (valid : Task.Valid cfg d)
    {j : Nat} (ne : j ≠ i) (at_j : sys.tasks[j]? = some task) (held : t ∈ task.held) :
    passing t d.did = [] := by
  have mem : task ∈ sys.tasks := List.mem_iff_getElem?.2 ⟨j, at_j⟩
  apply run.passing_eq_nil at_i found valid
  · exact run.mem_openings (.inr ⟨task, mem, held⟩)
  · intro here
    exact ne ((run.elsewhere at_i here).2 j task at_j held)

/-- Nothing passes over a transport that is parked. -/
lemma Trace.passing_parked (run : Trace cfg initial ms sys) (at_i : sys.tasks[i]? = some d.stood)
    (found : d.found = sys.shared) (valid : Task.Valid cfg d) (full : sys.shared.slot = some s) :
    passing s.transport d.did = [] := by
  have parked : s.transport ∈ sys.shared.parked := by simp [Shared.parked, full]
  apply run.passing_eq_nil at_i found valid
  · exact run.mem_openings (.inl parked)
  · intro here
    exact (run.elsewhere at_i here).1 parked

/-- After another deed the conversations of all attempts are their own. -/
lemma Conversing.act_attempting (conv : Conversing cfg ms sys) (run : Trace cfg initial ms sys)
    (at_i : sys.tasks[i]? = some d.stood) (found : d.found = sys.shared) (valid : Task.Valid cfg d)
    (mem : task ∈ sys.tasks.set i d.goes) (has : task.progress? = some p) (held : t ∈ p.held) :
    heard t (ms ++ [⟨i, d⟩]) = [] ∧
      Attempt.Talk cfg ((passing t (seenOf (ms ++ [⟨i, d⟩]))).map (t, ·)) p := by
  obtain rfl | ⟨j, ne, at_j⟩ := mem_set_cases mem
  · cases valid.step.converses with
    | attempts a o step_has st same _ next =>
      cases next p has
      exact conv.of_attempts run at_i found valid step_has st same held
    | serves _ _ _ _ _ idle => cases idle.symm.trans has
    | quiet _ _ fresh =>
      -- an attempt that has just begun holds no transport
      rw [fresh p has] at held
      cases held
  · have quiet : passing t d.did = [] := by
      apply run.passing_elsewhere at_i found valid ne at_j
      rw [(Task.held_of_progress has).1]
      exact held
    obtain ⟨passes, hears⟩ := passing_concat i ms quiet
    rw [passes, hears]
    exact conv.attempting task (List.mem_iff_getElem?.2 ⟨j, at_j⟩) p has t held

/-- After another deed the conversation of the session that is parked is that of its attempt. -/
lemma Conversing.act_parked (conv : Conversing cfg ms sys) (run : Trace cfg initial ms sys)
    (at_i : sys.tasks[i]? = some d.stood) (found : d.found = sys.shared) (valid : Task.Valid cfg d)
    (full : d.left.slot = some s) :
    heard s.transport (ms ++ [⟨i, d⟩]) = [] ∧
      Attempt.Talk cfg ((passing s.transport (seenOf (ms ++ [⟨i, d⟩]))).map (s.transport, ·))
        (.done (.ok s)) := by
  -- a session that was parked before is left alone, whatever moves
  have kept (same : sys.shared.slot = some s) := by
    obtain ⟨passes, hears⟩ :=
      passing_concat i ms (run.passing_parked at_i found valid same)
    have before := conv.parked s same
    rw [← passes, ← hears] at before
    exact before
  cases valid.step.converses with
  | attempts _ _ _ _ _ slot => exact kept (found ▸ slot.symm.trans full)
  | serves _ _ _ slot => exact kept (found ▸ slot.symm.trans full)
  | quiet quiet slot =>
    obtain same | ended := slot s full
    · exact kept (found ▸ same)
    · -- the attempt that ended with the session had its conversation
      have silent : passing s.transport d.did = [] := passing_eq_nil_iff.2 (by simp [quiet])
      obtain ⟨passes, hears⟩ := passing_concat i ms silent
      have stood : d.stood ∈ sys.tasks := List.mem_iff_getElem?.2 ⟨i, at_i⟩
      rw [passes, hears]
      exact conv.attempting d.stood stood _ ended s.transport (List.mem_singleton_self _)

/-- After another deed the conversation of a session that is listened to is that of its attempt and
what was heard. -/
lemma Conversing.act_serving (conv : Conversing cfg ms sys) (run : Trace cfg initial ms sys)
    (at_i : sys.tasks[i]? = some d.stood) (found : d.found = sys.shared) (valid : Task.Valid cfg d)
    (mem : task ∈ sys.tasks.set i d.goes) (serves : task.Serves s) :
    ∃ log, passing s.transport (seenOf (ms ++ [⟨i, d⟩])) =
        log ++ heard s.transport (ms ++ [⟨i, d⟩]) ∧
      Attempt.Talk cfg (log.map (s.transport, ·)) (.done (.ok s)) := by
  obtain rfl | ⟨j, ne, at_j⟩ := mem_set_cases mem
  · cases valid.step.converses with
    | attempts _ _ _ _ _ _ _ unserved => exact absurd serves (unserved s)
    | serves s' serves' _ _ next =>
      -- the listener goes on, and what it hears is added on both sides
      cases next s serves
      have stood : d.stood ∈ sys.tasks := List.mem_iff_getElem?.2 ⟨i, at_i⟩
      obtain ⟨log, same, talk⟩ := conv.serving d.stood stood s serves'
      refine ⟨log, ?_, talk⟩
      rw [seenOf_concat, passing_append, same, heard_concat,
        if_pos (Task.held_of_serves serves').2, List.append_assoc]
    | quiet quiet _ _ next =>
      -- the session is taken from the slot, and nothing has been heard on it yet
      have silent : passing s.transport d.did = [] := passing_eq_nil_iff.2 (by simp [quiet])
      obtain ⟨passes, hears⟩ := passing_concat i ms silent
      obtain ⟨unheard, talk⟩ := conv.parked s (found ▸ next s serves)
      rw [passes, hears, unheard]
      exact ⟨_, (List.append_nil _).symm, talk⟩
  · have quiet : passing s.transport d.did = [] := by
      apply run.passing_elsewhere at_i found valid ne at_j
      rw [(Task.held_of_serves serves).1]
      exact List.mem_singleton_self _
    obtain ⟨passes, hears⟩ := passing_concat i ms quiet
    rw [passes, hears]
    exact conv.serving task (List.mem_iff_getElem?.2 ⟨j, at_j⟩) s serves

end

/-- A move of any call keeps to the conversations. -/
lemma Conversing.act (conv : Conversing cfg ms sys) (run : Trace cfg initial ms sys)
    (at_i : sys.tasks[i]? = some d.stood) (found : d.found = sys.shared)
    (valid : Task.Valid cfg d) :
    Conversing cfg (ms ++ [⟨i, d⟩]) ⟨d.left, sys.tasks.set i d.goes⟩ := by
  constructor
  · intro task mem p has t held
    exact conv.act_attempting run at_i found valid mem has held
  · intro s full
    exact conv.act_parked run at_i found valid full
  · intro task mem s serves
    exact conv.act_serving run at_i found valid mem serves

/-- In every run each conversation is the one of an attempt, or the one of a session and what was
heard from then on. -/
lemma Trace.conversing (run : Trace cfg initial ms sys) : Conversing cfg ms sys := by
  induction run with
  | refl =>
    refine ⟨?_, nofun, ?_⟩
    · intro task mem
      cases mem
    · intro task mem
      cases mem
  | @call b ms task run fresh ih =>
    -- a call that is made has neither an attempt nor a session
    have old {task' : Task} (mem : task' ∈ b.tasks ++ [task]) : task' ∈ b.tasks ∨
        (task'.progress? = none ∧ ∀ s, ¬task'.Serves s) := by
      refine (List.mem_append.1 mem).imp_right fun new => ?_
      cases List.mem_singleton.1 new
      cases fresh with
      | connect | run | stop => exact ⟨rfl, fun _ => id⟩
      | listen => exact ⟨rfl, by rintro s ⟨⟩⟩
    refine ⟨?_, ih.parked, ?_⟩
    · intro task' mem p has
      obtain before | ⟨idle, -⟩ := old mem
      · exact ih.attempting task' before p has
      · cases idle.symm.trans has
    · intro task' mem s serves
      obtain before | ⟨-, idle⟩ := old mem
      · exact ih.serving task' before s serves
      · exact absurd serves (idle s)
  | act run at_i found valid ih => exact ih.act run at_i found valid

/-- What has passed over the transport of a session is its handshake and what was heard since. -/
lemma Trace.session (run : Trace cfg initial ms sys) (ready : sys.Ready s) :
    ∃ key xs, cfg.subscriptions = xs.map Exchange.subscription ∧
      s.codec = Exchange.codec cfg.subscriptions xs ∧
      passing s.transport (seenOf ms) = Attempt.confirmed key xs ++ heard s.transport ms := by
  obtain ⟨log, same, talk⟩ : ∃ log, passing s.transport (seenOf ms) = log ++ heard s.transport ms ∧
      Attempt.Talk cfg (log.map (s.transport, ·)) (.done (.ok s)) := by
    obtain full | ⟨task, mem, serves⟩ := ready
    · obtain ⟨unheard, talk⟩ := run.conversing.parked s full
      rw [unheard]
      exact ⟨_, (List.append_nil _).symm, talk⟩
    · exact run.conversing.serving task mem s serves
  obtain ⟨key, xs, log_eq, all, codec⟩ := talk.of_done
  have tagged : Function.Injective fun x : Passage => (s.transport, x) :=
    fun _ _ e => congrArg Prod.snd e
  rw [List.map_injective_iff.2 tagged log_eq] at same
  exact ⟨key, xs, all, codec, same⟩

end

/-- Each attempt makes its subscriptions in the order of the list, all with one key. It sends the
next request only after the ack for the one before was accepted, skips pongs, and takes no other
frames; it succeeds exactly when it has opened a transport and all subscriptions are confirmed. In
every run whoever listens to the session of an attempt takes the frames of the transport in order,
from the first one on that the attempt has not consumed. -/
theorem handshakes_in_order {cfg : Config} :
    (∀ carried ds p, Attempt.Course cfg (.waits (Attempt.begin cfg carried).1) ds p →
      (passages (seen ds) = [] ∧ ∀ s, p ≠ .done (.ok s)) ∨
        ∃ key t xs rest tail, cfg.subscriptions = xs.map Exchange.subscription ++ rest ∧
          passages (seen ds) = (Attempt.confirmed key xs ++ tail).map (t, ·) ∧
          Attempt.Unconfirmed key rest tail ∧
          (passages (seen ds)).filterMap (·.2.text?) =
            (cfg.subscriptions.take (xs.length + 1)).map
              (fun s => (Request.subscribe key s).write) ∧
          ((∃ s, p = .done (.ok s)) ↔ rest = []) ∧
          (rest = [] →
            (passages (seen ds)).filterMap (·.2.frame?) = xs.flatMap Exchange.frames)) ∧
      ∀ ms sys s, Trace cfg initial ms sys → sys.Ready s →
        ∃ key xs, cfg.subscriptions = xs.map Exchange.subscription ∧
          passing s.transport (seenOf ms) = Attempt.confirmed key xs ++ heard s.transport ms ∧
          ∀ inbound, (passing s.transport (seenOf ms)).filterMap Passage.frame? <+: inbound →
            (heard s.transport ms).filterMap Passage.frame? <+:
              inbound.drop (xs.flatMap Exchange.frames).length := by
  refine ⟨?_, ?_⟩
  · intro carried ds p run
    obtain unopened | ⟨key, t, xs, rest, tail, log, split, unconfirmed, success⟩ :=
      (Attempt.Course.talk run).summary
    · exact .inl unopened
    · refine .inr ⟨key, t, xs, rest, tail, split, log, unconfirmed, ?_, success, ?_⟩
      · rw [log, List.filterMap_map, split]
        exact Attempt.texts_of_unconfirmed unconfirmed
      · rintro rfl
        cases unconfirmed
        rw [log, List.filterMap_map, List.append_nil]
        exact Attempt.frames_confirmed xs
  · intro ms sys s run ready
    obtain ⟨key, xs, all, -, same⟩ := run.session ready
    refine ⟨key, xs, all, same, ?_⟩
    rintro inbound ⟨later, rfl⟩
    rw [same, List.filterMap_append, Attempt.frames_confirmed, List.append_assoc, List.drop_left]
    exact List.prefix_append _ _

/-- An ack for the subscription of the sample. -/
def sampleGrant : String :=
  "\x7b\"header\":\x7b\"tr_id\":\"H0STCNI9\"\x7d,\"body\":\x7b\"rt_cd\":\"0\",\"output\":\x7b" ++
    "\"key\":\"0123456789abcdef\",\"iv\":\"fedcba9876543210\"\x7d\x7d\x7d"

/-- The context that the ack brings. -/
def sampleContext : Cipher.Context :=
  ⟨Utf8.encode "0123456789abcdef", Utf8.encode "fedcba9876543210", by decide, by decide⟩

/-- An attempt that has sent its request and skipped a pong. -/
def sampleAttempt : List (Deed Attempt.Progress) × Attempt.Progress :=
  replay (Attempt.deed? Connect.sampleConfig) Shared.initial
    (.waits (Attempt.begin Connect.sampleConfig (some Connect.sampleOld)).1)
    [.reply (.opened (.ok ())) ⟨1⟩, .reply (.sent (.ok ())) ⟨2⟩,
      .reply (.received (.ok (some .pong))) ⟨3⟩]

/-- A client whose attempt has come as far, and a call that is going to listen. -/
def sampleAsked : List Move × System :=
  play Connect.sampleConfig initial
    [.connect, .listen, .meet 0 .proceed, .meet 0 .proceed, .meet 0 .proceed,
      .meet 0 (.reply (.cacheRead (.ok (some "old"))) ⟨0⟩),
      .meet 0 (.reply (.opened (.ok ())) ⟨1⟩), .meet 0 (.reply (.sent (.ok ())) ⟨2⟩),
      .meet 0 (.reply (.received (.ok (some .pong))) ⟨3⟩)]

/-- The session of the sample. -/
def sampleSession : Session :=
  ⟨1, (Codec.ofSubscriptions Connect.sampleConfig.subscriptions).register "H0STCNI9" sampleContext⟩

/-- The ack is accepted. -/
def sampleGranted : Deed Connect where
  found := sampleAsked.2.shared
  stood := .attempting (Retry.start Connect.sampleConfig.retry)
    (.acking ⟨Connect.sampleOld, 1, Codec.ofSubscriptions Connect.sampleConfig.subscriptions,
      Connect.sampleSubscription, []⟩)
  met := .reply (.received (.ok (some (.text sampleGrant)))) ⟨4⟩
  left := sampleAsked.2.shared
  goes := .parking sampleSession
  did := [.took 1 (.text sampleGrant), .noted (.acknowledged Connect.sampleSubscription)]

/-- The client of the sample from then on: the session is parked, and a keepalive is heard on it. -/
def sampleHeard : List Move × System :=
  play Connect.sampleConfig
    ⟨sampleAsked.2.shared, sampleAsked.2.tasks.set 0 (.connect sampleGranted.goes)⟩
    [.meet 0 .proceed, .meet 0 .proceed, .meet 0 .proceed, .meet 1 .proceed, .meet 1 (.tick ⟨5⟩),
      .meet 1 (.reply (.received (.ok (some (.text "PINGPONG")))) ⟨6⟩)]

/-- The frames that the server of the sample sends. -/
def sampleInbound : List WireFrame :=
  [.pong, .text sampleGrant, .text "PINGPONG", .text "later"]

/-- All moves of the sample. -/
def sampleMoves : List Move :=
  sampleAsked.1 ++ [⟨0, sampleGranted.map .connect⟩] ++ sampleHeard.1

/-- The acceptance of the ack is a step of the call that connects. -/
lemma sampleGranted_step :
    Connect.Step Connect.sampleConfig sampleGranted.found sampleGranted.stood sampleGranted.met
      ⟨sampleGranted.left, sampleGranted.goes, sampleGranted.did⟩ := by
  have valid : Ack.validate "H0STCNI9" sampleGrant = .ok sampleContext := by cbv
  exact .succeeded (.accepted rfl valid)

/-- The moves of the sample make up a run. -/
lemma sampleMoves_trace : Trace Connect.sampleConfig initial sampleMoves sampleHeard.2 := by
  have asked : Trace Connect.sampleConfig initial sampleAsked.1 sampleAsked.2 := .of_play _ _ _
  have granted : Task.Valid Connect.sampleConfig (sampleGranted.map .connect) :=
    Task.advance_iff.2 (.connect sampleGranted_step)
  have heard : Trace Connect.sampleConfig
      ⟨sampleAsked.2.shared, sampleAsked.2.tasks.set 0 (.connect sampleGranted.goes)⟩ sampleHeard.1
      sampleHeard.2 := .of_play _ _ _
  exact (asked.act rfl rfl granted).append heard

/-- The attempt of the sample has not succeeded yet when it waits for the ack, and the listener
hears the first frame after the ack. -/
theorem sampleMoves_in_order :
    (∃ key t xs rest tail,
      [Connect.sampleSubscription] = xs.map Exchange.subscription ++ rest ∧ rest ≠ [] ∧
        passages (seen sampleAttempt.1) = (Attempt.confirmed key xs ++ tail).map (t, ·)) ∧
      ∃ key xs, [Connect.sampleSubscription] = xs.map Exchange.subscription ∧
        passing 1 (seenOf sampleMoves) =
          Attempt.confirmed key xs ++ [.took (.text "PINGPONG"), .sent "PINGPONG"] ∧
        [WireFrame.text "PINGPONG"] <+:
          sampleInbound.drop (xs.flatMap Exchange.frames).length := by
  have attempt : Attempt.Course Connect.sampleConfig
      (.waits (Attempt.begin Connect.sampleConfig (some Connect.sampleOld)).1) sampleAttempt.1
      sampleAttempt.2 := .of_replay (fun _ _ _ _ => Attempt.valid_of_deed?) _ _ _
  have heard_eq : heard 1 sampleMoves = [.took (.text "PINGPONG"), .sent "PINGPONG"] := by rfl
  have frames : (passing 1 (seenOf sampleMoves)).filterMap Passage.frame? =
      [.pong, .text sampleGrant, .text "PINGPONG"] := by rfl
  obtain ⟨k, listens⟩ : ∃ k, sampleHeard.2.tasks[1]? = some (.listen (.echoing sampleSession k)) :=
    ⟨_, by rfl⟩
  obtain ⟨handshake, listening⟩ := @handshakes_in_order Connect.sampleConfig
  refine ⟨?_, ?_⟩
  · obtain ⟨unopened, -⟩ | ⟨key, t, xs, rest, tail, split, log, -, -, success, -⟩ :=
      handshake _ _ _ attempt
    · cases unopened
    · refine ⟨key, t, xs, rest, tail, split, ?_, log⟩
      intro all
      obtain ⟨s, ended⟩ := success.2 all
      cases ended
  · obtain ⟨key, xs, all, same, order⟩ :=
      listening _ _ sampleSession sampleMoves_trace
        (.inr ⟨_, List.mem_of_getElem? listens, Listen.Serves.echoing⟩)
    have heard_session : heard sampleSession.transport sampleMoves = _ := heard_eq
    rw [heard_session] at same order
    exact ⟨key, xs, all, same, order sampleInbound ⟨[.text "later"], congrArg (· ++ _) frames⟩⟩

end System

end Client

end FillFeed
