import Mathlib
import FillFeed.Proofs.Task.Transports

/-!
# Ownership of transports

A transport is owned by whoever has it open or is closing it: an attempt, a listener, a closer, or
the slot. It passes from one owner to the next and is never shared. `Task.Step.tends` says what one
step does with transports: a transport that is used is open in the call from then on, and the one
whose closing begins is the one that the call is closing from then on. Together with the balance of
transports this gives `System.transports_owned_once` for every run: one owner, one closing, and no
use after it.
-/

namespace FillFeed

/-- The transport that is used: a text or a ping is sent over it, or a frame is waited for. -/
def Effect.used? : Effect → Option TransportId
  | .began (.sendText t _) | .began (.sendPing t) | .began (.receive t) => some t
  | _ => none

/-- The transports that are used, as often as they are. -/
def uses (es : List Effect) : List TransportId := es.filterMap Effect.used?

/-- What is used is put together like what is done. -/
@[simp] lemma uses_append (xs ys : List Effect) : uses (xs ++ ys) = uses xs ++ uses ys :=
  List.filterMap_append

/-- A request for a key uses no transport. -/
lemma Approval.Step.uses_eq {stage : Approval.Stage} {r : Reply} {p : Approval.Progress}
    {did : List Effect} (st : Approval.Step stage r p did) : uses did = [] := by
  cases st <;> rfl

namespace Client

/-- A change of the state uses no transport. -/
@[simp] lemma uses_setState (s : Shared) (next : ConnectionState) : uses (s.setState next).2 = [] :=
  filterMap_setState (fun _ _ => rfl) fun _ => rfl

/-- What is told about a closing uses no transport. -/
@[simp] lemma uses_closeNotices (result : Except TransportError Unit) :
    uses (closeNotices result) = [] :=
  filterMap_closeNotices fun _ => rfl

/-- The transport that an attempt is closing. -/
def Attempt.closes : Attempt → List TransportId
  | .abandoning t _ => [t]
  | _ => []

/-- The transport that an attempt goes on closing. -/
def Attempt.Progress.closes : Attempt.Progress → List TransportId
  | .waits a => a.closes
  | .done _ => []

/-- The transport that a call that connects is closing: the one of its failed attempt, one that it
has replaced in the slot, or one that it has taken out of the slot again. -/
def Connect.closes : Connect → List TransportId
  | .attempting _ a => a.closes
  | .replacing _ t | .discarding t => [t]
  | _ => []

/-- The transport that a call that listens is closing. -/
def Listen.closes : Listen → List TransportId
  | .closing t _ => [t]
  | _ => []

/-- The transport that a call that keeps the feed running is closing. -/
def Run.closes : Run → List TransportId
  | .connecting c => c.closes
  | .listening l => l.closes
  | _ => []

/-- The transport that a call that stops the client is closing. -/
def Stop.closes : Stop → List TransportId
  | .closing t => [t]
  | _ => []

/-- The transport that a call is closing. -/
def Task.closes : Task → List TransportId
  | .connect c => c.closes
  | .listen l => l.closes
  | .run r => r.closes
  | .stop s => s.closes

/-- The transports that a call owns: the one that it has open and the one that it is closing. -/
def Task.owned (t : Task) : List TransportId := t.held ++ t.closes

/-- What a step does with transports: those that it uses are open afterwards, and the call is
closing exactly what the step has begun to close. -/
structure Tends (did : List Effect) (held closes : List TransportId) : Prop where
  open_of_used : ∀ t ∈ uses did, t ∈ held
  closes_eq : closes = closings did

section

variable {cfg : Config} {found : Shared} {h : Happening} {did : List Effect}
  {held closes : List TransportId}

/-- A step that uses no transport only has to account for what it begins to close. -/
lemma Tends.of_unused (unused : uses did = []) (same : closes = closings did) :
    Tends did held closes := by
  refine ⟨?_, same⟩
  intro t mem
  rw [unused] at mem
  cases mem

/-- Subscribing uses the transport that it goes on with. -/
lemma Attempt.subscribe_tends {shared : Shared} {key : ApprovalKey} {t : TransportId}
    {codec : Codec} {effects : List Effect} {rest : List Subscription} (unused : uses effects = [])
    (unclosed : closings effects = []) :
    Tends (subscribe shared key t codec effects rest).effects
      (subscribe shared key t codec effects rest).progress.held
      (subscribe shared key t codec effects rest).progress.closes := by
  cases rest with
  | nil => exact .of_unused unused unclosed.symm
  | cons s rest =>
    refine ⟨?_, ?_⟩
    · intro t' mem
      simp only [subscribe, uses_append, unused, List.nil_append] at mem
      exact mem
    · simp only [subscribe, closings_append, unclosed, List.nil_append]
      rfl

/-- An attempt uses the transport that it has open and closes it when it fails. -/
lemma Attempt.Step.tends {a : Attempt} {o : Attempt.Outcome} (st : Attempt.Step cfg found a h o) :
    Tends o.effects o.progress.held o.progress.closes := by
  cases st with
  | obtaining st | unobtained st => exact .of_unused st.uses_eq st.quiet.2.symm
  | obtained st =>
    refine .of_unused ?_ ?_
    · rw [uses_append, st.uses_eq]
      rfl
    · rw [closings_append, st.quiet.2]
      rfl
  | opened =>
    refine subscribe_tends ?_ ?_
    · exact uses_setState _ _
    · exact closings_setState _ _
  | accepted => exact subscribe_tends rfl rfl
  | sent | ponged => exact ⟨fun _ => id, rfl⟩
  | abandoned => exact .of_unused (uses_closeNotices _) (closings_closeNotices _).symm
  | _ => exact .of_unused rfl rfl

/-- A call that connects uses the transport of its attempt. -/
lemma Connect.Step.tends {c : Connect} {o : Connect.Outcome} (st : Connect.Step cfg found c h o) :
    Tends o.effects o.next.held o.next.closes := by
  cases st with
  | attempting st | succeeded st => exact st.tends
  | @failed retry _ _ shared' cause effects st =>
    -- an attempt that failed has closed its transport before
    have quiet := st.tends
    have unused : uses effects = [] := List.eq_nil_iff_forall_not_mem.2 fun t mem =>
      absurd (quiet.open_of_used t mem) List.not_mem_nil
    have same : uses (Connect.failed cfg shared' retry cause effects).effects = uses effects :=
      filterMap_failed (fun _ => rfl) (fun _ => rfl) (fun _ => rfl) rfl
    refine .of_unused (same.trans unused) ?_
    rw [closings_failed, ← quiet.closes_eq]
    obtain ⟨rejection, -, e⟩ | ⟨-, e⟩ := failed_cases cfg shared' retry cause effects
    · rw [e]
      rfl
    · rw [e]
      rfl
  | announced =>
    refine .of_unused ?_ ?_
    · rw [uses_append, uses_setState]
      rfl
    · rw [closings_append, closings_setState]
      rfl
  | @launched retry carried => cases carried <;> exact .of_unused rfl rfl
  | reissuing st | reissued st => exact .of_unused st.uses_eq st.quiet.2.symm
  | unreissued st =>
    refine .of_unused ?_ ?_
    · rw [uses_append, st.uses_eq]
      rfl
    · rw [closings_append, st.quiet.2]
      rfl
  | replaced | discarded =>
    exact .of_unused (uses_closeNotices _) (closings_closeNotices _).symm
  | published =>
    refine .of_unused ?_ ?_
    · rw [uses_append, uses_setState]
      rfl
    · rw [closings_append, closings_setState]
      rfl
  | _ => exact .of_unused rfl rfl

/-- A call that listens uses the transport of its session. -/
lemma Listen.Step.tends {l : Listen} {o : Listen.Outcome} (st : Listen.Step cfg found l h o) :
    Tends o.effects o.next.held o.next.closes := by
  cases st with
  | started | pinging | ponged | skipped | echoing | controlled | pinged | echoed | handled
  | unhandled => exact ⟨fun _ => id, rfl⟩
  | closed =>
    refine .of_unused ?_ ?_
    · rw [uses, filterMap_conclude (fun _ _ => rfl) (fun _ => rfl) fun _ => rfl]
      exact uses_closeNotices _
    · rw [closings, filterMap_conclude (fun _ _ => rfl) (fun _ => rfl) fun _ => rfl, conclude_next,
        ← closings, closings_closeNotices]
      rfl
  | closedLate =>
    refine .of_unused ?_ ?_
    · rw [uses, filterMap_conclude (fun _ _ => rfl) (fun _ => rfl) fun _ => rfl]
      rfl
    · rw [closings, filterMap_conclude (fun _ _ => rfl) (fun _ => rfl) fun _ => rfl, conclude_next]
      rfl
  | _ => exact .of_unused rfl rfl

/-- A call that stops the client uses no transport; it closes the one that it takes. -/
lemma Stop.Step.tends {s : Stop} {o : Stop.Outcome} (st : Stop.Step cfg found s h o) :
    Tends o.effects [] o.next.closes := by
  cases st with
  | published =>
    obtain e | e := found.shutDown_cases
    · rw [e]
      exact .of_unused rfl rfl
    · rw [e]
      exact .of_unused rfl rfl
  | closed =>
    refine .of_unused ?_ ?_
    · rw [uses_append, uses_closeNotices]
      rfl
    · rw [closings_append, closings_closeNotices]
      rfl
  | _ => exact .of_unused rfl rfl

/-- A call that turns from connecting to listening is closing nothing new. -/
lemma Run.closes_afterConnect (c : Connect) : (afterConnect c).closes = c.closes := by
  unfold afterConnect
  split <;> rfl

/-- A call that turns from listening to connecting is closing nothing new. -/
lemma Run.closes_afterListen (l : Listen) : (afterListen l).closes = l.closes := by
  unfold afterListen
  split <;> rfl

/-- A call that keeps the feed running uses the transport that it connects or listens with. -/
lemma Run.Step.tends {r : Run} {o : Run.Outcome} (st : Run.Step cfg found r h o) :
    Tends o.effects o.next.held o.next.closes := by
  cases st with
  | connecting st =>
    rw [held_afterConnect, closes_afterConnect]
    exact st.tends
  | @listening l h o st =>
    obtain ⟨open_of_used, closes_eq⟩ := st.tends
    have unused : uses (listenEffects o.next) = [] := filterMap_listenEffects rfl
    have unclosed : closings (listenEffects o.next) = [] := filterMap_listenEffects rfl
    rw [held_afterListen, closes_afterListen]
    refine ⟨?_, ?_⟩
    · rw [uses_append, unused, List.append_nil]
      exact open_of_used
    · rw [closings_append, unclosed, List.append_nil]
      exact closes_eq
  | stopped | restarted => exact .of_unused rfl rfl

/-- A step uses only what its call has open afterwards, and begins to close what it is closing. -/
lemma Task.Step.tends {t : Task} {o : Task.Outcome} (st : Task.Step cfg found t h o) :
    Tends o.effects o.next.held o.next.closes := by
  cases st with
  | connect st => exact st.tends
  | listen st => exact st.tends
  | run st => exact st.tends
  | stop st => exact st.tends

/-- A call that was just made is closing nothing. -/
lemma Task.Fresh.closes_eq {t : Task} (fresh : Task.Fresh cfg t) : t.closes = [] := by
  cases fresh <;> rfl

end

namespace System

variable {cfg : Config} {sys : System} {ms : List Move} {t : TransportId}

/-- Whatever a call is closing has begun to be closed. -/
lemma Trace.closes_le (run : Trace cfg initial ms sys) (t : TransportId) :
    (sys.tasks.flatMap Task.closes).count t ≤ (closings (seenOf ms)).count t := by
  induction run with
  | refl => exact le_rfl
  | call _ fresh ih =>
    rw [List.flatMap_append, List.flatMap_singleton, fresh.closes_eq, List.append_nil]
    exact ih
  | @act b ms i d _ at_i _ valid ih =>
    have tasks := count_flatMap_set (f := Task.closes) (y := d.goes) at_i t
    rw [show d.goes.closes = closings d.did from valid.step.tends.closes_eq] at tasks
    rw [seenOf_concat, closings_append, List.count_append]
    dsimp only
    omega

/-- What a call owns it has open or is closing. -/
lemma count_owned (tasks : List Task) (t : TransportId) :
    (tasks.flatMap Task.owned).count t =
      (tasks.flatMap Task.held).count t + (tasks.flatMap Task.closes).count t := by
  induction tasks with
  | nil => rfl
  | cons task tasks ih =>
    simp only [List.flatMap_cons, List.count_append, ih, Task.owned]
    omega

/-- A transport that was just used has not been closed so far. -/
lemma Trace.not_closed_of_used {i : Nat} {d : Deed Task} (run : Trace cfg initial ms sys)
    (at_i : sys.tasks[i]? = some d.stood) (found : d.found = sys.shared) (valid : Task.Valid cfg d)
    (used : t ∈ uses d.did) : t ∉ closings (seenOf (ms ++ [⟨i, d⟩])) := by
  have held : t ∈ d.goes.held := valid.step.tends.open_of_used t used
  have lt : i < sys.tasks.length := (List.getElem?_eq_some_iff.1 at_i).1
  have mem : t ∈ (sys.tasks.set i d.goes).flatMap Task.held :=
    List.mem_flatMap.2 ⟨d.goes, List.mem_set lt d.goes, held⟩
  have fates := (run.act at_i found valid).fates t
  dsimp only at fates
  have := List.count_pos_iff.2 mem
  refine List.count_eq_zero.1 ?_
  omega

/-- Nothing that is used at some point of a run has been closed before. -/
lemma Trace.not_closed_before_use {xs ys : List Effect} {e : Effect}
    (run : Trace cfg initial ms sys) (split : seenOf ms = xs ++ e :: ys)
    (used : e.used? = some t) : t ∉ closings xs := by
  induction run generalizing xs ys with
  | refl => simp [seenOf] at split
  | call _ _ ih => exact ih split
  | @act b ms i d run at_i found valid ih =>
    rw [seenOf_concat] at split
    dsimp only at split
    have of_now (mem : e ∈ d.did) : t ∉ closings (xs ++ e :: ys) := by
      have unclosed := run.not_closed_of_used at_i found valid (List.mem_filterMap.2 ⟨e, mem, used⟩)
      rw [seenOf_concat] at unclosed
      exact split ▸ unclosed
    have of_whole (unclosed : t ∉ closings (xs ++ e :: ys)) : t ∉ closings xs := by
      rw [closings_append] at unclosed
      exact fun mem => unclosed (List.mem_append_left _ mem)
    obtain ⟨es, -, now⟩ | ⟨es, before, rest⟩ := List.append_eq_append_iff.1 split
    · exact of_whole (of_now (by simp [now]))
    · cases es with
      -- the use is the first effect of the last move
      | nil => exact of_whole (of_now (by simp [← show e :: ys = d.did from rest]))
      | cons e' es =>
        cases rest
        exact ih before

/-- In every run each transport has at most one owner at a time: the slot, a call that has it open,
or a call that is closing it. Whoever uses a transport or begins to close it is its owner from then
on. A transport begins to be closed at most once, and it is not used any more afterwards. -/
theorem transports_owned_once (run : Trace cfg initial ms sys) :
    (sys.shared.parked ++ sys.tasks.flatMap Task.owned).Nodup ∧
      (∀ m ∈ ms, ∀ t ∈ uses m.deed.did ++ closings m.deed.did, t ∈ m.deed.goes.owned) ∧
      (closings (seenOf ms)).Nodup ∧
      ∀ xs e ys t, seenOf ms = xs ++ e :: ys → e.used? = some t → t ∉ closings xs := by
  refine ⟨?_, ?_, ?_, ?_⟩
  · refine List.nodup_iff_count_le_one.2 fun t => ?_
    have fates := run.fates t
    have closing := run.closes_le t
    rw [List.count_append, count_owned]
    omega
  · intro m mem t tended
    obtain ⟨xs, ys, rfl⟩ := List.append_of_mem mem
    obtain ⟨-, -, -, -, valid⟩ := run.at_move
    have tends := valid.step.tends
    obtain used | closed := List.mem_append.1 tended
    · exact List.mem_append_left _ (tends.open_of_used t used)
    · refine List.mem_append_right _ ?_
      rw [show m.deed.goes.closes = closings m.deed.did from tends.closes_eq]
      exact closed
  · refine List.nodup_iff_count_le_one.2 fun t => ?_
    have fates := run.fates t
    omega
  · intro xs e ys t split used
    exact run.not_closed_before_use split used

/-- A client with nothing to subscribe to: two calls connect, the session of the second one replaces
that of the first one, and a listener takes it and waits for a frame. -/
def sampleHandover : List Move × System :=
  play (Config.of "ws://feed" []) initial
    [.connect, .connect, .listen, .meet 0 .proceed, .meet 0 .proceed, .meet 0 .proceed,
      .meet 0 (.reply (.cacheRead (.ok (some "key"))) ⟨0⟩), .meet 0 (.reply (.opened (.ok ())) ⟨1⟩),
      .meet 0 .proceed, .meet 1 .proceed, .meet 1 .proceed, .meet 1 .proceed,
      .meet 1 (.reply (.cacheRead (.ok (some "key"))) ⟨2⟩), .meet 1 (.reply (.opened (.ok ())) ⟨3⟩),
      .meet 1 .proceed, .meet 2 .proceed, .meet 2 (.tick ⟨4⟩)]

/-- While the call that replaced the first transport of the sample is closing it, the listener has
the second one, and the use of the second one comes after the closing of the first one. -/
theorem sampleHandover_owned :
    sampleHandover.2.shared.parked = [] ∧ sampleHandover.2.tasks.flatMap Task.owned = [1, 2] ∧
      closings (seenOf sampleHandover.1) = [1] ∧ uses (seenOf sampleHandover.1) = [2] ∧
      ([] ++ [1, 2] : List TransportId).Nodup ∧ ([1] : List TransportId).Nodup ∧
      ∀ xs e ys, seenOf sampleHandover.1 = xs ++ e :: ys → e.used? = some 2 → 2 ∉ closings xs := by
  have run : Trace (Config.of "ws://feed" []) initial sampleHandover.1 sampleHandover.2 :=
    .of_play _ _ _
  have parked : sampleHandover.2.shared.parked = [] := by rfl
  have owned : sampleHandover.2.tasks.flatMap Task.owned = [1, 2] := by rfl
  have closed : closings (seenOf sampleHandover.1) = [1] := by rfl
  obtain ⟨once, -, closedOnce, unused⟩ := transports_owned_once run
  rw [parked, owned] at once
  rw [closed] at closedOnce
  exact ⟨parked, owned, closed, by rfl, once, closedOnce, fun xs e ys => unused xs e ys 2⟩

end System

end Client

end FillFeed
