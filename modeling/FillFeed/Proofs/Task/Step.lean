import Mathlib
import FillFeed.Client.System
import FillFeed.Proofs.Connect.Step
import FillFeed.Proofs.Listen.Step

/-!
# Steps of tasks

The ways in which a call that stops the client (`Stop.Step`), a call that keeps the feed running
(`Run.Step`) and any call in progress (`Task.Step`) go on. The rules for running lift those for
connecting and listening; `Task.advance_iff` says that the rules for tasks are exactly what
`advance` does.
-/

namespace FillFeed.Client

/-- The rules by which a call that stops the client goes on. -/
inductive Stop.Step (cfg : Config) (shared : Shared) : Stop → Happening → Stop.Outcome → Prop where
  | signalled :
    Step cfg shared .signalling .proceed ⟨{ shared with stopped := true }, .publishing, []⟩
  | published :
    Step cfg shared .publishing .proceed ⟨shared.shutDown.1, .taking, shared.shutDown.2⟩
  | unparked (empty : shared.slot = none) :
    Step cfg shared .taking .proceed
      ⟨{ shared with slot := none }, .releasing, [.began .releaseCache]⟩
  | took {s} (full : shared.slot = some s) :
    Step cfg shared .taking .proceed
      ⟨{ shared with slot := none }, .closing s.transport, [.began (.close s.transport)]⟩
  | closed {t result now} :
    Step cfg shared (.closing t) (.reply (.closed result) now)
      ⟨shared, .releasing, closeNotices result ++ [.began .releaseCache]⟩
  | closedLate {t} :
    Step cfg shared (.closing t) .expired
      ⟨shared, .releasing,
        [.noted (.closeTimedOut cfg.closeTimeout), .began .releaseCache]⟩
  | released {now} :
    Step cfg shared .releasing (.reply .cacheReleased now)
      ⟨shared, .finished, [.noted .clientStopped]⟩

/-- The rules by which a call that keeps the feed running goes on. -/
inductive Run.Step (cfg : Config) (shared : Shared) : Run → Happening → Run.Outcome → Prop where
  | connecting {c h} {o : Connect.Outcome} (st : Connect.Step cfg shared c h o) :
    Step cfg shared (.connecting c) h ⟨o.shared, afterConnect o.next, o.effects⟩
  | listening {l h} {o : Listen.Outcome} (st : Listen.Step cfg shared l h o) :
    Step cfg shared (.listening l) h
      ⟨o.shared, afterListen o.next, o.effects ++ listenEffects o.next⟩
  | stopped {e} (stopped : shared.stopped = true) :
    Step cfg shared (.judging e) .proceed ⟨shared, .finished (.ok ()), []⟩
  | restarted {e} (free : shared.stopped = false) :
    Step cfg shared (.judging e) .proceed ⟨shared, start cfg, [.noted (.listenerFailed e)]⟩

/-- The rules by which a task goes on. -/
inductive Task.Step (cfg : Config) (shared : Shared) : Task → Happening → Task.Outcome → Prop where
  | connect {c h} {o : Connect.Outcome} (st : Connect.Step cfg shared c h o) :
    Step cfg shared (.connect c) h ⟨o.shared, .connect o.next, o.effects⟩
  | listen {l h} {o : Listen.Outcome} (st : Listen.Step cfg shared l h o) :
    Step cfg shared (.listen l) h ⟨o.shared, .listen o.next, o.effects⟩
  | run {r h} {o : Run.Outcome} (st : Run.Step cfg shared r h o) :
    Step cfg shared (.run r) h ⟨o.shared, .run o.next, o.effects⟩
  | stop {s h} {o : Stop.Outcome} (st : Stop.Step cfg shared s h o) :
    Step cfg shared (.stop s) h ⟨o.shared, .stop o.next, o.effects⟩

variable {cfg : Config} {shared : Shared} {h : Happening}

/-- A call that stops the client goes on by the rules and in no other way. -/
lemma Stop.advance_iff {s : Stop} {o : Stop.Outcome} :
    s.advance cfg shared h = some o ↔ Stop.Step cfg shared s h o := by
  constructor
  · intro goes
    unfold advance at goes
    split at goes
    · cases goes; exact .signalled
    · cases goes; exact .published
    · cases slot : shared.slot with
      | none => simp only [Shared.take, slot] at goes; cases goes; exact .unparked slot
      | some s => simp only [Shared.take, slot] at goes; cases goes; exact .took slot
    · cases goes; exact .closed
    · cases goes; exact .closedLate
    · cases goes; exact .released
    · cases goes
  · intro st
    cases st with
    | unparked empty => simp [advance, Shared.take, empty, release]
    | took full => simp [advance, Shared.take, full]
    | _ => rfl

/-- A call that keeps the feed running goes on by the rules and in no other way. -/
lemma Run.advance_iff {r : Run} {o : Run.Outcome} :
    r.advance cfg shared h = some o ↔ Run.Step cfg shared r h o := by
  constructor
  · intro goes
    unfold advance at goes
    split at goes
    · obtain ⟨o, step, rfl⟩ := Option.map_eq_some_iff.1 goes
      exact .connecting (Connect.advance_iff.1 step)
    · obtain ⟨o, step, rfl⟩ := Option.map_eq_some_iff.1 goes
      exact .listening (Listen.advance_iff.1 step)
    · split at goes
      · cases goes; exact .stopped ‹_›
      · rename_i free
        cases goes
        exact .restarted (Bool.eq_false_iff.2 free)
    · cases goes
  · intro st
    cases st with
    | connecting st => simp [advance, Connect.advance_iff.2 st]
    | listening st => simp [advance, Listen.advance_iff.2 st]
    | stopped stopped => simp [advance, stopped]
    | restarted free => simp [advance, free]

/-- What is told when listening ends well concerns nobody who does not look for that. -/
lemma Run.filterMap_listenEffects {α : Type} {f : Effect → Option α} {l : Listen}
    (untold : f (.noted .listenerStopped) = none) : (listenEffects l).filterMap f = [] := by
  unfold listenEffects
  split
  · exact List.filterMap_cons_none untold
  · rfl

/-- A task goes on by the rules and in no other way. -/
lemma Task.advance_iff {t : Task} {o : Task.Outcome} :
    t.advance cfg shared h = some o ↔ Task.Step cfg shared t h o := by
  constructor
  · intro goes
    cases t with
    | connect c =>
      obtain ⟨o, step, rfl⟩ := Option.map_eq_some_iff.1 goes
      exact .connect (Connect.advance_iff.1 step)
    | listen l =>
      obtain ⟨o, step, rfl⟩ := Option.map_eq_some_iff.1 goes
      exact .listen (Listen.advance_iff.1 step)
    | run r =>
      obtain ⟨o, step, rfl⟩ := Option.map_eq_some_iff.1 goes
      exact .run (Run.advance_iff.1 step)
    | stop s =>
      obtain ⟨o, step, rfl⟩ := Option.map_eq_some_iff.1 goes
      exact .stop (Stop.advance_iff.1 step)
  · intro st
    cases st with
    | connect st => simp [advance, Connect.advance_iff.2 st]
    | listen st => simp [advance, Listen.advance_iff.2 st]
    | run st => simp [advance, Run.advance_iff.2 st]
    | stop st => simp [advance, Stop.advance_iff.2 st]

end FillFeed.Client
