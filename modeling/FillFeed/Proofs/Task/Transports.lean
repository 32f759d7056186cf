import Mathlib
import FillFeed.Proofs.Task.Trace

/-!
# Transports

Every transport that a client opens is held by one call at a time, by the attempt that opened it or
by the listener that took it over, or it is parked. A call that lets go of a transport closes it,
with two exceptions (`Task.dropped`): an attempt that is cancelled while it sends a subscription or
waits for an ack just disappears together with its transport, and so does a listener whose timer
cannot be set up.

`Task.Step.keeps` is the balance of one step and `System.Trace.balance` the balance of a run.
`closings_of_over` draws the conclusion for a client whose calls are all over: a transport was
closed once, or it was dropped and never closed.
-/

namespace FillFeed

/-- The transport that is opened. -/
def Effect.opened? : Effect → Option TransportId
  | .opened t => some t
  | _ => none

/-- The transport that is closed. -/
def Effect.closed? : Effect → Option TransportId
  | .began (.close t) => some t
  | _ => none

/-- The transports that are opened. -/
def openings (es : List Effect) : List TransportId := es.filterMap Effect.opened?

/-- The transports that are closed, as often as they are. -/
def closings (es : List Effect) : List TransportId := es.filterMap Effect.closed?

/-- A request for a key neither opens nor closes a transport. -/
lemma Approval.Step.quiet {stage : Approval.Stage} {r : Reply} {p : Approval.Progress}
    {did : List Effect} (st : Approval.Step stage r p did) :
    openings did = [] ∧ closings did = [] := by
  cases st <;> exact ⟨rfl, rfl⟩

/-- Where nothing is done, no transport is opened. -/
@[simp] lemma openings_nil : openings [] = [] := rfl

/-- Where nothing is done, no transport is closed. -/
@[simp] lemma closings_nil : closings [] = [] := rfl

/-- Closing a transport opens none. -/
@[simp] lemma openings_close (t : TransportId) : openings [.began (.close t)] = [] := rfl

/-- A transport whose closing begins is closed. -/
@[simp] lemma closings_close (t : TransportId) : closings [.began (.close t)] = [t] := rfl

/-- What is opened is put together like what is done. -/
@[simp] lemma openings_append (xs ys : List Effect) :
    openings (xs ++ ys) = openings xs ++ openings ys := List.filterMap_append

/-- What is closed is put together like what is done. -/
@[simp] lemma closings_append (xs ys : List Effect) :
    closings (xs ++ ys) = closings xs ++ closings ys := List.filterMap_append

namespace Client

/-- A change of the state opens no transport. -/
@[simp] lemma openings_setState (s : Shared) (next : ConnectionState) :
    openings (s.setState next).2 = [] :=
  filterMap_setState (fun _ _ => rfl) fun _ => rfl

/-- A change of the state closes no transport. -/
@[simp] lemma closings_setState (s : Shared) (next : ConnectionState) :
    closings (s.setState next).2 = [] :=
  filterMap_setState (fun _ _ => rfl) fun _ => rfl

/-- What is told about a closing opens no transport. -/
@[simp] lemma openings_closeNotices (result : Except TransportError Unit) :
    openings (closeNotices result) = [] :=
  filterMap_closeNotices fun _ => rfl

/-- What is told about a closing closes no transport. -/
@[simp] lemma closings_closeNotices (result : Except TransportError Unit) :
    closings (closeNotices result) = [] :=
  filterMap_closeNotices fun _ => rfl

/-- The transport that is parked. -/
def Shared.parked (s : Shared) : List TransportId := (s.slot.map (·.transport)).toList

/-- The transport that an attempt has open. -/
def Attempt.held : Attempt → List TransportId
  | .sending h | .acking h => [h.transport]
  | _ => []

/-- The transport that an attempt goes on with, or hands over. -/
def Attempt.Progress.held : Attempt.Progress → List TransportId
  | .waits a => a.held
  | .done (.ok s) => [s.transport]
  | .done (.error _) => []

/-- The transport that a call that connects has open. -/
def Connect.held : Connect → List TransportId
  | .attempting _ a => a.held
  | .parking s => [s.transport]
  | _ => []

/-- The transport that a call that listens has open. -/
def Listen.held : Listen → List TransportId
  | .starting s | .polling s _ | .pinging s _ | .echoing s _ | .handling s _ _ => [s.transport]
  | _ => []

/-- The transport that a call that keeps the feed running has open. -/
def Run.held : Run → List TransportId
  | .connecting c => c.held
  | .listening l => l.held
  | _ => []

/-- The transport that a call has open. -/
def Task.held : Task → List TransportId
  | .connect c => c.held
  | .listen l => l.held
  | .run r => r.held
  | .stop _ => []

/-- The transport that a call that connects drops: the one of a cancelled attempt. -/
def Connect.dropped : Connect → Happening → List TransportId
  | .attempting _ a, .cancelled => a.held
  | _, _ => []

/-- The transport that a call that listens drops: the one that no timer can be set up for. -/
def Listen.dropped (cfg : Config) : Listen → Happening → List TransportId
  | .starting s, .tick now =>
    if (timerCrash? cfg.keepalive.interval now).isSome then [s.transport] else []
  | _, _ => []

/-- The transport that a call that keeps the feed running drops. -/
def Run.dropped (cfg : Config) : Run → Happening → List TransportId
  | .connecting c, h => c.dropped h
  | .listening l, h => l.dropped cfg h
  | _, _ => []

/-- The transport that a call drops without closing it. -/
def Task.dropped (cfg : Config) : Task → Happening → List TransportId
  | .connect c, h => c.dropped h
  | .listen l, h => l.dropped cfg h
  | .run r, h => r.dropped cfg h
  | .stop _, _ => []

/-- Whether a call is over: it has returned, or it has crashed. -/
def Task.isOver : Task → Bool
  | .connect (.crashed _) | .listen (.crashed _) | .run (.connecting (.crashed _))
  | .run (.listening (.crashed _)) => true
  | t => t.isFinished

/-- The balance of a step: a transport that was parked, held or opened is now parked, held, closed
or dropped, and an opened one has the next number. -/
structure Keeps (found : Shared) (held : List TransportId) (did : List Effect) (left : Shared)
    (held' dropped : List TransportId) : Prop where
  numbered : (openings did = [] ∧ left.opened = found.opened) ∨
    (openings did = [found.opened + 1] ∧ left.opened = found.opened + 1)
  balance : ∀ t, found.parked.count t + held.count t + (openings did).count t =
    left.parked.count t + held'.count t + (closings did).count t + dropped.count t

section

variable {cfg : Config} {found left : Shared} {held held' dropped : List TransportId}
  {did : List Effect} {h : Happening}

/-- A step that opens no transport and leaves the parked one alone only has to account for what it
holds. -/
lemma Keeps.of_held (unopened : openings did = []) (same : left.opened = found.opened)
    (slot : left.slot = found.slot) (split : held = held' ++ closings did ++ dropped) :
    Keeps found held did left held' dropped := by
  refine ⟨.inl ⟨unopened, same⟩, ?_⟩
  intro t
  have parked : left.parked = found.parked := by rw [Shared.parked, slot, Shared.parked]
  rw [parked, unopened, split]
  simp only [List.count_append, List.count_nil]
  omega

/-- Subscribing goes on with the transport, or hands it over. -/
lemma Attempt.subscribe_held {shared : Shared} {key : ApprovalKey} {t : TransportId}
    {codec : Codec} {effects : List Effect} {rest : List Subscription} :
    (subscribe shared key t codec effects rest).progress.held = [t] := by
  cases rest <;> rfl

/-- An attempt keeps the balance, and drops nothing by itself. -/
lemma Attempt.Step.keeps {a : Attempt} {o : Attempt.Outcome} (st : Attempt.Step cfg found a h o) :
    Keeps found a.held o.effects o.shared o.progress.held [] := by
  cases st with
  | obtaining st => exact .of_held st.quiet.1 rfl rfl (by rw [st.quiet.2]; rfl)
  | obtained st =>
    refine .of_held ?_ rfl rfl ?_
    · rw [openings_append, st.quiet.1]
      rfl
    · rw [closings_append, st.quiet.2]
      rfl
  | unobtained st => exact .of_held st.quiet.1 rfl rfl (by rw [st.quiet.2]; rfl)
  | @opened key now =>
    -- the only rule that opens a transport, which is held from here on
    have opened (rest : List Effect) :
        openings (.opened found.addTransport.2 :: rest) = (found.opened + 1) :: openings rest := rfl
    have closed (rest : List Effect) :
        closings (.opened found.addTransport.2 :: rest) = closings rest := rfl
    have parked : (found.addTransport.1.setState .subscribing).1.parked = found.parked := by
      rw [Shared.parked, Shared.setState_slot]
      rfl
    refine ⟨.inr ⟨?_, ?_⟩, ?_⟩
    · rw [openings, filterMap_subscribe fun _ _ => rfl, ← openings, opened, openings_setState]
    · rw [subscribe_shared, Shared.setState_opened]
      rfl
    · intro t
      rw [openings, closings, filterMap_subscribe fun _ _ => rfl,
        filterMap_subscribe fun _ _ => rfl, ← openings, ← closings, opened, closed,
        openings_setState, closings_setState, subscribe_shared, subscribe_held, parked]
      rfl
  | unopened => exact .of_held rfl rfl rfl rfl
  | unopenedLate => exact .of_held rfl rfl rfl rfl
  | sent => exact .of_held rfl rfl rfl rfl
  | unsent => exact .of_held rfl rfl rfl rfl
  | ponged => exact .of_held rfl rfl rfl rfl
  | accepted =>
    refine .of_held ?_ (by rw [subscribe_shared]) (by rw [subscribe_shared]) ?_
    · rw [openings, filterMap_subscribe fun _ _ => rfl]
      rfl
    · rw [subscribe_held, closings, filterMap_subscribe fun _ _ => rfl]
      rfl
  | rejected => exact .of_held rfl rfl rfl rfl
  | ended => exact .of_held rfl rfl rfl rfl
  | unreceived => exact .of_held rfl rfl rfl rfl
  | unanswered => exact .of_held rfl rfl rfl rfl
  | abandoned => exact .of_held (by simp) rfl rfl (by simp [held, Progress.held])
  | abandonedLate => exact .of_held rfl rfl rfl rfl

section

variable {shared : Shared} {retry : Retry} {cause : ClientError} {effects : List Effect}

/-- A failed attempt leaves no transport open. -/
lemma Connect.failed_held : (failed cfg shared retry cause effects).next.held = [] := by
  obtain ⟨rejection, -, e⟩ | ⟨-, e⟩ := failed_cases cfg shared retry cause effects
  · rw [e]
    rfl
  · rw [e]
    rfl

/-- A failure opens no transport. -/
lemma Connect.openings_failed :
    openings (failed cfg shared retry cause effects).effects = openings effects :=
  filterMap_failed (fun _ => rfl) (fun _ => rfl) (fun _ => rfl) rfl

/-- A failure closes no transport. -/
lemma Connect.closings_failed :
    closings (failed cfg shared retry cause effects).effects = closings effects :=
  filterMap_failed (fun _ => rfl) (fun _ => rfl) (fun _ => rfl) rfl

end

/-- A call drops a transport of its attempt only when it is cancelled. -/
lemma Connect.dropped_attempting {retry : Retry} {a : Attempt} (ne : h ≠ .cancelled) :
    (Connect.attempting retry a).dropped h = [] := by
  cases h with
  | cancelled => exact absurd rfl ne
  | _ => rfl

/-- A call that connects keeps the balance. -/
lemma Connect.Step.keeps {c : Connect} {o : Connect.Outcome} (st : Connect.Step cfg found c h o) :
    Keeps found c.held o.effects o.shared o.next.held (c.dropped h) := by
  cases st with
  | halted | cleared | unlaunched => exact .of_held rfl rfl rfl rfl
  | announced =>
    refine .of_held ?_ (by simp) (by simp) ?_
    · rw [openings_append, openings_setState]
      rfl
    · rw [closings_append, closings_setState]
      rfl
  | @launched retry carried => cases carried <;> exact .of_held rfl rfl rfl rfl
  | dropped => exact .of_held rfl rfl rfl rfl
  | attempting st =>
    rw [dropped_attempting st.ne_cancelled]
    exact st.keeps
  | succeeded st =>
    rw [dropped_attempting st.ne_cancelled]
    exact st.keeps
  | @failed _ _ _ shared' _ _ st =>
    rw [dropped_attempting st.ne_cancelled]
    refine ⟨?_, ?_⟩
    · rw [failed_shared, openings_failed, Shared.setState_opened]
      exact st.keeps.numbered
    · intro t
      have parked : (shared'.setState .disconnected).1.parked = shared'.parked := by
        rw [Shared.parked, Shared.setState_slot, Shared.parked]
      rw [failed_shared, failed_held, openings_failed, closings_failed, parked]
      exact st.keeps.balance t
  | reissuing st => exact .of_held st.quiet.1 rfl rfl (by rw [st.quiet.2]; rfl)
  | reissued st => exact .of_held st.quiet.1 rfl rfl (by rw [st.quiet.2]; rfl)
  | unreissued st =>
    refine .of_held ?_ rfl rfl ?_
    · rw [openings_append, st.quiet.1]
      rfl
    · rw [closings_append, st.quiet.2]
      rfl
  | exhausted | unpausable | paused | woken | resumed => exact .of_held rfl rfl rfl rfl
  | @parked session empty =>
    refine ⟨.inl ⟨rfl, rfl⟩, ?_⟩
    intro t
    simp [Shared.parked, empty, held, Connect.dropped]
  | @parkedOver session old full =>
    -- the new session takes the place of the old one, whose transport is closed
    refine ⟨.inl ⟨rfl, rfl⟩, ?_⟩
    intro t
    simp [Shared.parked, full, held, Connect.dropped]
    omega
  | replaced | discarded =>
    refine .of_held (openings_closeNotices _) rfl rfl ?_
    rw [closings_closeNotices]
    rfl
  | replacedLate | revoked | confirmed | discardedLate => exact .of_held rfl rfl rfl rfl
  | gone empty => exact .of_held rfl rfl empty.symm rfl
  | @withdrawn session full =>
    refine ⟨.inl ⟨rfl, rfl⟩, ?_⟩
    intro t
    simp [Shared.parked, full, held, Connect.dropped]
  | published =>
    refine .of_held ?_ (by simp) (by simp) ?_
    · rw [openings_append, openings_setState]
      rfl
    · rw [closings_append, closings_setState]
      rfl

/-- A call that listens keeps the balance. -/
lemma Listen.Step.keeps {l : Listen} {o : Listen.Outcome} (st : Listen.Step cfg found l h o) :
    Keeps found l.held o.effects o.shared o.next.held (l.dropped cfg h) := by
  cases st with
  | unconnected empty => exact .of_held rfl rfl empty.symm rfl
  | @took s full =>
    refine ⟨.inl ⟨rfl, rfl⟩, ?_⟩
    intro t
    simp [Shared.parked, full, held, Listen.dropped]
  | crashed unset => exact .of_held rfl rfl rfl (by simp [held, Listen.dropped, unset])
  | started set => exact .of_held rfl rfl rfl (by simp [held, Listen.dropped, set, closings,
      Effect.closed?])
  | closed =>
    refine .of_held ?_ conclude_opened conclude_slot ?_
    · rw [openings, filterMap_conclude (fun _ _ => rfl) (fun _ => rfl) fun _ => rfl]
      exact openings_closeNotices _
    · rw [closings, filterMap_conclude (fun _ _ => rfl) (fun _ => rfl) fun _ => rfl, conclude_next,
        ← closings, closings_closeNotices]
      rfl
  | closedLate =>
    refine .of_held ?_ conclude_opened conclude_slot ?_
    · rw [openings, filterMap_conclude (fun _ _ => rfl) (fun _ => rfl) fun _ => rfl]
      rfl
    · rw [closings, filterMap_conclude (fun _ _ => rfl) (fun _ => rfl) fun _ => rfl, conclude_next]
      rfl
  | _ => exact .of_held rfl rfl rfl rfl

/-- A call that stops the client keeps the balance: it holds nothing and closes what it takes. -/
lemma Stop.Step.keeps {s : Stop} {o : Stop.Outcome} (st : Stop.Step cfg found s h o) :
    Keeps found [] o.effects o.shared [] [] := by
  cases st with
  | published =>
    obtain e | e := found.shutDown_cases
    · rw [e]
      exact .of_held rfl rfl rfl rfl
    · rw [e]
      exact .of_held rfl rfl rfl rfl
  | unparked empty => exact .of_held rfl rfl empty.symm rfl
  | @took s full =>
    refine ⟨.inl ⟨rfl, rfl⟩, ?_⟩
    intro t
    simp [Shared.parked, full]
  | closed =>
    refine .of_held ?_ rfl rfl ?_
    · rw [openings_append, openings_closeNotices]
      rfl
    · rw [closings_append, closings_closeNotices]
      rfl
  | signalled | closedLate | released => exact .of_held rfl rfl rfl rfl

/-- A call that turns from connecting to listening holds what it held. -/
lemma Run.held_afterConnect (c : Connect) : (afterConnect c).held = c.held := by
  unfold afterConnect
  split <;> rfl

/-- A call that turns from listening to connecting holds what it held. -/
lemma Run.held_afterListen (l : Listen) : (afterListen l).held = l.held := by
  unfold afterListen
  split <;> rfl

/-- A call that keeps the feed running keeps the balance. -/
lemma Run.Step.keeps {r : Run} {o : Run.Outcome} (st : Run.Step cfg found r h o) :
    Keeps found r.held o.effects o.shared o.next.held (r.dropped cfg h) := by
  cases st with
  | connecting st =>
    rw [held_afterConnect]
    exact st.keeps
  | @listening l h o st =>
    obtain ⟨numbered, balance⟩ := st.keeps
    have unopened : openings (listenEffects o.next) = [] := filterMap_listenEffects rfl
    have unclosed : closings (listenEffects o.next) = [] := filterMap_listenEffects rfl
    rw [held_afterListen]
    refine ⟨?_, ?_⟩
    · rw [openings_append, unopened, List.append_nil]
      exact numbered
    · intro t
      rw [openings_append, closings_append, unopened, unclosed, List.append_nil, List.append_nil]
      exact balance t
  | stopped | restarted => exact .of_held rfl rfl rfl rfl

/-- Every call keeps the balance. -/
lemma Task.Step.keeps {t : Task} {o : Task.Outcome} (st : Task.Step cfg found t h o) :
    Keeps found t.held o.effects o.shared o.next.held (t.dropped cfg h) := by
  cases st with
  | connect st => exact st.keeps
  | listen st => exact st.keeps
  | run st => exact st.keeps
  | stop st => exact st.keeps

/-- A call that was just made holds nothing. -/
lemma Task.Fresh.held_eq {t : Task} (fresh : Task.Fresh cfg t) : t.held = [] := by
  cases fresh <;> rfl

/-- A call that is over holds nothing. -/
lemma Task.held_of_isOver {t : Task} (ended : t.isOver = true) : t.held = [] := by
  unfold isOver at ended
  split at ended
  · rfl
  · rfl
  · rfl
  · rfl
  · unfold isFinished at ended
    split at ended
    · rfl
    · rfl
    · rfl
    · rfl
    · cases ended

end

/-- What one of some lists is replaced by is all that changes in their counts. -/
lemma count_flatMap_set {α : Type} {f : α → List TransportId} {x y : α} {xs : List α} {i : Nat}
    (at_i : xs[i]? = some x) (t : TransportId) :
    ((xs.set i y).flatMap f).count t + (f x).count t =
      (xs.flatMap f).count t + (f y).count t := by
  induction xs generalizing i with
  | nil => cases at_i
  | cons z zs ih =>
    cases i with
    | zero =>
      cases at_i
      simp only [List.set_cons_zero, List.flatMap_cons, List.count_append]
      omega
    | succ i =>
      have rest := ih at_i
      simp only [List.set_cons_succ, List.flatMap_cons, List.count_append]
      omega

namespace System

variable {cfg : Config} {sys : System} {ms : List Move}

/-- The transports that are dropped in some moves. -/
def dropped (cfg : Config) (ms : List Move) : List TransportId :=
  ms.flatMap fun m => m.deed.stood.dropped cfg m.deed.met

/-- Transports are numbered in the order in which they are opened. -/
lemma Trace.openings_eq (run : Trace cfg initial ms sys) :
    openings (seenOf ms) = List.range' 1 sys.shared.opened := by
  induction run with
  | refl => rfl
  | call _ _ ih => exact ih
  | act _ at_i found valid ih =>
    rw [seenOf_concat, openings_append, ih, ← found]
    obtain ⟨unopened, same⟩ | ⟨opened, next⟩ := valid.step.keeps.numbered
    · rw [unopened, List.append_nil, ← same]
    · rw [opened, show _ = _ from next, List.range'_1_concat, Nat.add_comm 1]

/-- The balance of a run: a transport that was opened is parked, held, closed or dropped. -/
lemma Trace.balance (run : Trace cfg initial ms sys) (t : TransportId) :
    (openings (seenOf ms)).count t =
      sys.shared.parked.count t + (sys.tasks.flatMap Task.held).count t +
        (closings (seenOf ms)).count t + (dropped cfg ms).count t := by
  induction run with
  | refl => rfl
  | call _ fresh ih =>
    rw [ih]
    simp [fresh.held_eq]
  | @act b ms i d _ at_i found valid ih =>
    -- of all that is held only what the moving call holds changes
    have step := valid.step.keeps.balance t
    have tasks := count_flatMap_set (f := Task.held) (y := d.goes) at_i t
    have drops : dropped cfg (ms ++ [⟨i, d⟩]) = dropped cfg ms ++ d.stood.dropped cfg d.met := by
      simp [dropped]
    rw [found] at step
    rw [seenOf_concat, openings_append, closings_append, drops]
    simp only [List.count_append] at step ⊢
    omega

/-- Of all that may become of a transport at most one thing is the case: it is parked, some call has
it open, or it has been closed, once. -/
lemma Trace.fates (run : Trace cfg initial ms sys) (t : TransportId) :
    sys.shared.parked.count t + (sys.tasks.flatMap Task.held).count t +
      (closings (seenOf ms)).count t ≤ 1 := by
  have balance := run.balance t
  have once : (openings (seenOf ms)).count t ≤ 1 := by
    rw [run.openings_eq]
    exact List.nodup_iff_count_le_one.1 List.nodup_range' t
  omega

/-- Once all calls are over and nothing is parked, a transport that was opened has been closed
exactly once, unless a call dropped it: then it has never been closed. -/
theorem closings_of_over (run : Trace cfg initial ms sys)
    (allOver : ∀ task ∈ sys.tasks, task.isOver = true) (unparked : sys.shared.slot = none)
    {t : TransportId} (opened : t ∈ openings (seenOf ms)) :
    (closings (seenOf ms)).count t = if t ∈ dropped cfg ms then 0 else 1 := by
  have balance := run.balance t
  have once : (openings (seenOf ms)).count t = 1 := by
    rw [run.openings_eq] at opened ⊢
    exact List.count_eq_one_of_mem List.nodup_range' opened
  have unheld : sys.tasks.flatMap Task.held = [] :=
    List.flatMap_eq_nil_iff.2 fun task mem => Task.held_of_isOver (allOver task mem)
  -- one opening is left to be matched by a closing or by a drop
  rw [once, unheld, Shared.parked, unparked] at balance
  simp only [Option.map_none, Option.toList_none, List.count_nil] at balance
  split
  · rename_i mem
    have := List.count_pos_iff.2 mem
    omega
  · rename_i mem
    have := List.count_eq_zero_of_not_mem mem
    omega

/-- What the client of the sample subscribes to. -/
def sampleConfig : Config := Config.of "ws://feed" [⟨.domesticFills, "H0STCNI9", "user"⟩]

/-- A client that is stopped while a call waits for the first ack. -/
def sampleTrace : List Move × System :=
  play sampleConfig initial
    [.connect, .stop, .meet 0 .proceed, .meet 0 .proceed, .meet 0 .proceed,
      .meet 0 (.reply (.cacheRead (.ok (some "key"))) ⟨0⟩), .meet 0 (.reply (.opened (.ok ())) ⟨1⟩),
      .meet 0 (.reply (.sent (.ok ())) ⟨2⟩), .meet 1 .proceed, .meet 0 .cancelled,
      .meet 1 .proceed, .meet 1 .proceed, .meet 1 (.reply .cacheReleased ⟨3⟩)]

/-- The calls of the sample have returned and nothing is parked, but the transport that was opened
has never been closed. -/
theorem sampleTrace_drops :
    (∀ task ∈ sampleTrace.2.tasks, task.isFinished = true ∧ task.isOver = true) ∧
      sampleTrace.2.shared.slot = none ∧ 1 ∈ openings (seenOf sampleTrace.1) ∧
      1 ∈ dropped sampleConfig sampleTrace.1 ∧ (closings (seenOf sampleTrace.1)).count 1 = 0 := by
  have run : Trace sampleConfig initial sampleTrace.1 sampleTrace.2 := .of_play _ _ _
  have tasks : sampleTrace.2.tasks = [.connect (.finished (.error .stopped)), .stop .finished] := by
    rfl
  have opened : openings (seenOf sampleTrace.1) = [1] := by rfl
  have drops : dropped sampleConfig sampleTrace.1 = [1] := by rfl
  have returned : ∀ task ∈ sampleTrace.2.tasks, task.isFinished = true ∧ task.isOver = true := by
    rw [tasks]
    simp [Task.isFinished, Task.isOver]
  have mem : 1 ∈ dropped sampleConfig sampleTrace.1 := by simp [drops]
  have isOpened : 1 ∈ openings (seenOf sampleTrace.1) := by simp [opened]
  refine ⟨returned, by rfl, isOpened, mem, ?_⟩
  rw [closings_of_over run (fun task mem => (returned task mem).2) (by rfl) isOpened, if_pos mem]

end System

end Client

end FillFeed
