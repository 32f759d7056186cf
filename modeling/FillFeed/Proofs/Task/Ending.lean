import Mathlib
import FillFeed.Proofs.Connect.Budget
import FillFeed.Proofs.Task.Calls
import FillFeed.Proofs.Task.Shutdown

/-!
# How a feed ends

A call that keeps the feed running looks for the signal to stop before each attempt, during an
attempt or a pause, after it has parked a session, and when a listener has failed. It does not look
once an attempt has failed and before the failure is counted. A call whose attempts are used up at
this place (`Run.Spent`) gives up with an error although the client is stopped, and
`System.result_of_stopped` says that there is no other way for it to fail then.
-/

namespace FillFeed.Client

/-- A call that connects whose last attempt has failed: all that is left is to replace the key and
to give up. -/
def Connect.Spent : Connect → Prop
  | .reissuing retry _ | .deciding retry _ => retry.IsLast
  | _ => False

/-- A call that connects is past its look at the signal to stop before its last attempt, and that
attempt is not over. -/
def Connect.LastTry : Connect → Prop
  | .announcing retry _ | .launching retry _ | .attempting retry _ => retry.IsLast
  | _ => False

/-- A call that keeps the feed running whose last attempt has failed. -/
def Run.Spent : Run → Prop
  | .connecting c => c.Spent
  | _ => False

/-- A call that keeps the feed running is making its last attempt. -/
def Run.LastTry : Run → Prop
  | .connecting c => c.LastTry
  | _ => False

/-- A call that keeps the feed running keeps its count of failures within the budget. -/
def Run.Counts (cfg : Config) : Run → Prop
  | .connecting c => Connect.Counts cfg c
  | _ => True

/-- A task that keeps the feed running and whose last attempt has failed. -/
def Task.Spent : Task → Prop
  | .run r => r.Spent
  | _ => False

/-- A task that keeps the feed running keeps its count of failures within the budget. -/
def Task.Counts (cfg : Config) : Task → Prop
  | .run r => r.Counts cfg
  | _ => True

/-- The error of a feed that could not connect. -/
def Run.gaveUp (cfg : Config) : Run :=
  .finished (.error (.exhausted (max 1 cfg.retry.attempts)))

section

variable {cfg : Config} {shared : Shared} {h : Happening}

namespace Connect

variable {c : Connect} {o : Outcome}

/-- A call that has used up its attempts gives up, after it has replaced the key if need be. -/
lemma Step.spent (st : Step cfg shared c h o) (counts : Counts cfg c) (spent : c.Spent) :
    o.next.Spent ∨ o.next = .finished (.error (.exhausted (max 1 cfg.retry.attempts))) := by
  cases st with
  | reissuing | reissued | unreissued => exact .inl spent
  | exhausted fails =>
    obtain ⟨rfl, -⟩ := Retry.fail_cases fails
    rw [Retry.Within.failures_of_isLast counts spent]
    exact .inr rfl
  | unpausable fails | paused fails =>
    -- there is a pause only if the budget has room for another attempt
    obtain ⟨rfl, ⟨none, -⟩ | ⟨-, room⟩⟩ := Retry.fail_cases fails
    · cases none
    · exact absurd (decide_eq_true room) (Bool.eq_false_iff.1 spent)
  | _ => exact spent.elim

/-- A call has used up its attempts when the last one fails. -/
lemma Step.spent_cases (st : Step cfg shared c h o) (spent : o.next.Spent) :
    c.Spent ∨ c.LastTry := by
  cases st with
  | @failed retry _ _ shared' cause effects =>
    obtain ⟨rejection, -, e⟩ | ⟨-, e⟩ := failed_cases cfg shared' retry cause effects
    · rw [e] at spent
      exact .inr spent
    · rw [e] at spent
      exact .inr spent
  | reissuing | reissued | unreissued => exact .inl spent
  | _ => exact spent.elim

/-- On a stopped client no call comes to make its last attempt. -/
lemma Step.lastTry (st : Step cfg shared c h o) (stopped : shared.stopped = true)
    (last : o.next.LastTry) : c.LastTry := by
  cases st with
  | cleared free => cases stopped.symm.trans free
  | announced | launched | attempting => exact last
  | @failed retry _ _ shared' cause effects =>
    obtain ⟨rejection, -, e⟩ | ⟨-, e⟩ := failed_cases cfg shared' retry cause effects
    · rw [e] at last
      exact last.elim
    · rw [e] at last
      exact last.elim
  | _ => exact last.elim

/-- A call that has attempts left fails only because it notices the signal to stop. -/
lemma Step.eq_stopped (st : Step cfg shared c h o) (unspent : ¬c.Spent) {e : ClientError}
    (fails : o.next = .finished (.error e)) : e = .stopped := by
  cases st with
  | exhausted spent =>
    obtain ⟨-, ⟨-, last⟩ | ⟨more, -⟩⟩ := Retry.fail_cases spent
    · exact absurd last unspent
    · cases more
  | @failed retry _ _ shared' cause effects =>
    obtain ⟨rejection, -, e⟩ | ⟨-, e⟩ := failed_cases cfg shared' retry cause effects
    · cases e ▸ fails
    · cases e ▸ fails
  | halted | unlaunched | dropped | woken | gone | discarded | discardedLate =>
    cases fails
    rfl
  | _ => cases fails

end Connect

namespace Run

variable {r : Run} {o : Outcome}

/-- A call that keeps the feed running is spent where its connecting is. -/
lemma spent_afterConnect (c : Connect) : (afterConnect c).Spent ↔ c.Spent := by
  unfold afterConnect
  split <;> rfl

/-- A call that keeps the feed running makes its last attempt where its connecting does. -/
lemma lastTry_afterConnect (c : Connect) : (afterConnect c).LastTry ↔ c.LastTry := by
  unfold afterConnect
  split <;> rfl

/-- The count of failures stays within the budget when connecting is over. -/
lemma counts_afterConnect {c : Connect} (counts : Connect.Counts cfg c) :
    (afterConnect c).Counts cfg := by
  unfold afterConnect
  split
  · trivial
  · trivial
  · trivial
  · exact counts

/-- A call that is still listening or starts anew is far from giving up. -/
lemma quiet_afterListen (cfg : Config) (l : Listen) :
    ¬(afterListen l).Spent ∧ ¬(afterListen l).LastTry ∧ (afterListen l).Counts cfg ∧
      ∀ e, afterListen l ≠ .finished (.error e) := by
  unfold afterListen
  split
  · exact ⟨id, id, trivial, nofun⟩
  · exact ⟨id, id, trivial, nofun⟩
  · exact ⟨id, id, trivial, nofun⟩

/-- Each step keeps the count of failures within the budget. -/
lemma Step.counts (st : Step cfg shared r h o) (counts : r.Counts cfg) : o.next.Counts cfg := by
  cases st with
  | connecting st => exact counts_afterConnect (st.counts counts)
  | listening => exact (quiet_afterListen cfg _).2.2.1
  | stopped => trivial
  | restarted => exact .start _

/-- A call that has used up its attempts gives up. -/
lemma Step.spent (st : Step cfg shared r h o) (counts : r.Counts cfg) (spent : r.Spent) :
    o.next.Spent ∨ o.next = gaveUp cfg := by
  cases st with
  | connecting st =>
    obtain spent | ends := st.spent counts spent
    · exact .inl ((spent_afterConnect _).2 spent)
    · rw [ends]
      exact .inr rfl
  | _ => exact spent.elim

/-- A call has used up its attempts when the last one fails. -/
lemma Step.spent_cases (st : Step cfg shared r h o) (spent : o.next.Spent) :
    r.Spent ∨ r.LastTry := by
  cases st with
  | connecting st => exact st.spent_cases ((spent_afterConnect _).1 spent)
  | listening => exact absurd spent (quiet_afterListen cfg _).1
  | stopped | restarted => exact spent.elim

/-- On a stopped client no call comes to make its last attempt. -/
lemma Step.lastTry (st : Step cfg shared r h o) (stopped : shared.stopped = true)
    (last : o.next.LastTry) : r.LastTry := by
  cases st with
  | connecting st => exact st.lastTry stopped ((lastTry_afterConnect _).1 last)
  | listening => exact absurd last (quiet_afterListen cfg _).2.1
  | stopped | restarted => exact last.elim

/-- A call that has attempts left does not fail. -/
lemma Step.ne_error (st : Step cfg shared r h o) (unspent : ¬r.Spent) (e : ClientError) :
    o.next ≠ .finished (.error e) := by
  cases st with
  | @connecting c h o st =>
    intro fails
    -- of all the ways in which connecting may fail only the signal to stop is left
    cases next : o.next with
    | finished result =>
      cases result with
      | ok => rw [next] at fails; cases fails
      | error e' =>
        cases st.eq_stopped unspent next
        rw [next] at fails
        cases fails
    | _ => rw [next] at fails; cases fails
  | listening => exact (quiet_afterListen cfg _).2.2.2 e
  | stopped | restarted => exact nofun

variable {r' : Run} {ds : List (Deed Run)}

/-- On a stopped client an attempt that uses up the budget was under way when the client was
stopped, if it was not over by then. -/
lemma Course.spent_cases (run : Course (Valid cfg) r ds r')
    (stopped : ∀ d ∈ ds, d.found.stopped = true) :
    (r'.Spent ∨ r'.LastTry → r.Spent ∨ r.LastTry) ∧
      ∀ d ∈ ds, d.goes.Spent → r.Spent ∨ r.LastTry := by
  induction run with
  | refl => exact ⟨id, fun d mem => absurd mem List.not_mem_nil⟩
  | @tail ds d _ valid ih =>
    obtain ⟨before, among⟩ := ih fun d mem => stopped d (List.mem_append_left _ mem)
    have st := Valid.step valid
    have now : d.goes.Spent → r.Spent ∨ r.LastTry := fun spent => before (st.spent_cases spent)
    refine ⟨?_, ?_⟩
    · rintro (spent | last)
      · exact now spent
      · exact before (.inr (st.lastTry (stopped d (by simp)) last))
    · intro x mem spent
      obtain mem | rfl := List.mem_append.1 mem |>.imp_right List.mem_singleton.1
      · exact among x mem spent
      · exact now spent

/-- A call that has used up its attempts gives up. -/
lemma Course.gives_up (run : Course (Valid cfg) r ds r') (counts : r.Counts cfg)
    (spent : r.Spent ∨ ∃ d ∈ ds, d.goes.Spent) : r'.Spent ∨ r' = gaveUp cfg := by
  induction run with
  | refl => exact .inl (spent.resolve_right (by simp))
  | @tail ds d run valid ih =>
    have st := Valid.step valid
    have onwards (before : r.Spent ∨ ∃ d ∈ ds, d.goes.Spent) :
        d.goes.Spent ∨ d.goes = gaveUp cfg := by
      obtain spent | ended := ih before
      · exact st.spent (run.preserves (fun _ _ valid => (Valid.step valid).counts) counts) spent
      · rw [ended] at st
        cases st
    obtain spent | ⟨x, mem, spent⟩ := spent
    · exact onwards (.inl spent)
    · obtain mem | rfl := List.mem_append.1 mem |>.imp_right List.mem_singleton.1
      · exact onwards (.inr ⟨x, mem, spent⟩)
      · exact .inl spent

/-- A call whose last attempt never failed does not end with an error. -/
lemma Course.ne_error (run : Course (Valid cfg) r ds r') (going : ∀ e, r ≠ .finished (.error e))
    (unspent : ¬(r.Spent ∨ ∃ d ∈ ds, d.goes.Spent)) (e : ClientError) :
    r' ≠ .finished (.error e) := by
  cases run with
  | refl => exact going e
  | @tail ds d run valid =>
    -- the call stood where it began, or where an earlier deed had brought it
    have left : ¬d.stood.Spent := by
      obtain same | ⟨x, mem, same⟩ := run.end_cases
      · exact fun spent => unspent (.inl (same ▸ spent))
      · exact fun spent => unspent (.inr ⟨x, by simp [mem], same ▸ spent⟩)
    exact (Valid.step valid).ne_error left e

end Run

end

/-- Each step of a task keeps the count of failures within the budget. -/
lemma Task.Step.counts {cfg : Config} {shared : Shared} {t : Task} {h : Happening}
    {o : Task.Outcome} (st : Task.Step cfg shared t h o) (counts : t.Counts cfg) :
    o.next.Counts cfg := by
  cases st with
  | run st => exact st.counts counts
  | _ => trivial

/-- A new task has no failures to count. -/
lemma Task.Fresh.counts {cfg : Config} {t : Task} (fresh : Task.Fresh cfg t) : t.Counts cfg := by
  cases fresh with
  | run => exact Retry.Within.start _
  | _ => trivial

namespace System

variable {cfg : Config} {pre ms : List Move} {mid sys : System} {i : Nat} {r : Run}

/-- In every run a call that keeps the feed running keeps its count of failures within the
budget. -/
lemma Trace.counts (run : Trace cfg initial ms sys) (at_i : sys.tasks[i]? = some (.run r)) :
    r.Counts cfg := by
  obtain ⟨t, here | ⟨-, fresh⟩, course⟩ := run.course_to at_i
  · cases here
  · exact course.preserves (P := Task.Counts cfg) (fun _ _ valid => (Task.Valid.step valid).counts)
      fresh.counts

/-- When the client is stopped, a call that keeps the feed running and has not returned yet returns
without an error, unless its last attempt fails and that failure has not been counted when the
client is stopped. In that case, and only then, the call returns the error of a budget that is
spent, and its last attempt was under way or had just failed when the client was stopped. -/
theorem result_of_stopped {cfg : Config} {pre ms : List Move} {mid sys : System} {i : Nat} {r : Run}
    {result : Except ClientError Unit} (before : Trace cfg initial pre mid)
    (at_i : mid.tasks[i]? = some (.run r)) (going : ∀ result, r ≠ .finished result)
    (stopped : mid.shared.stopped = true) (run : Trace cfg mid ms sys)
    (returned : sys.tasks[i]? = some (.run (.finished result))) :
    (result = .ok () ∨ result = .error (.exhausted (max 1 cfg.retry.attempts))) ∧
      (result ≠ .ok () ↔ r.Spent ∨ ∃ d ∈ deedsOf i ms, d.goes.Spent) ∧
      (result ≠ .ok () → r.Spent ∨ r.LastTry) := by
  obtain ⟨r', ds, at_i', deeds, course⟩ := run.run_course at_i
  cases at_i'.symm.trans returned
  -- the signal to stop is never taken back
  have found : ∀ d ∈ ds, d.found.stopped = true := by
    intro d mem
    exact run.found_stopped stopped i (d.map .run) (deeds ▸ List.mem_map_of_mem mem)
  have among : (∃ d ∈ deedsOf i ms, d.goes.Spent) ↔ ∃ d ∈ ds, d.goes.Spent := by
    simp only [deeds, List.mem_map, exists_exists_and_eq_and]
    rfl
  rw [among]
  by_cases spent : r.Spent ∨ ∃ d ∈ ds, d.goes.Spent
  · obtain unfinished | ended := Run.Course.gives_up course (before.counts at_i) spent
    · exact unfinished.elim
    · cases ended
      refine ⟨.inr rfl, iff_of_true nofun spent, ?_⟩
      intro _
      obtain spent | ⟨d, mem, spent⟩ := spent
      · exact .inl spent
      · exact (Run.Course.spent_cases course found).2 d mem spent
  · have well : result = .ok () := by
      cases result with
      | ok => rfl
      | error e => exact absurd rfl (Run.Course.ne_error course (fun _ => going _) spent e)
    exact ⟨.inl well, iff_of_false (fun fails => fails well) spent, fun fails => absurd well fails⟩

/-- A configuration that allows one attempt. -/
def sampleSingle : Config := { Connect.sampleConfig with retry := .of ⟨0⟩ 1 }

/-- A client whose only attempt waits for the first ack, and that is about to be stopped. -/
def sampleWaiting : List Move × System :=
  play sampleSingle initial
    [.run, .stop, .meet 0 .proceed, .meet 0 .proceed, .meet 0 .proceed,
      .meet 0 (.reply (.cacheRead (.ok (some "old"))) ⟨0⟩), .meet 0 (.reply (.opened (.ok ())) ⟨1⟩),
      .meet 0 (.reply (.sent (.ok ())) ⟨2⟩)]

/-- The rejection of the key in the only attempt. -/
def sampleRefusal : Deed Connect where
  found := sampleWaiting.2.shared
  stood := .attempting (Retry.start sampleSingle.retry)
    (.acking ⟨Connect.sampleOld, 1, Codec.ofSubscriptions sampleSingle.subscriptions,
      Connect.sampleSubscription, []⟩)
  met := .reply (.received (.ok (some (.text Connect.sampleAck)))) ⟨3⟩
  left := sampleWaiting.2.shared
  goes := .attempting (Retry.start sampleSingle.retry)
    (.abandoning 1 (.rejected ⟨"H0STCNI9", "1", "OPSP0011", ""⟩))
  did := [.took 1 (.text Connect.sampleAck), .began (.close 1)]

/-- The same as a deed of the client. -/
def sampleMove : Move := ⟨0, sampleRefusal.map fun c => .run (.connecting c)⟩

/-- The client of the sample up to the signal to stop, which comes while the key is replaced. -/
def sampleReplacing : List Move × System :=
  play sampleSingle
    ⟨sampleWaiting.2.shared, sampleWaiting.2.tasks.set 0 sampleMove.deed.goes⟩
    [.meet 0 (.reply (.closed (.ok ())) ⟨4⟩), .meet 1 .proceed]

/-- The client of the sample from then on. -/
def sampleLast : List Move × System :=
  play sampleSingle sampleReplacing.2
    [.meet 0 (.reply (.keyIssued (.ok Connect.sampleNew)) ⟨5⟩),
      .meet 0 (.reply (.cacheWritten (.ok ())) ⟨6⟩), .meet 0 (.drawn Connect.sampleDraw)]

/-- The call of the sample returns an error although the client was stopped before. -/
theorem sampleLast_fails :
    Trace sampleSingle initial (sampleWaiting.1 ++ [sampleMove] ++ sampleReplacing.1)
        sampleReplacing.2 ∧
      sampleReplacing.2.shared.stopped = true ∧
      Trace sampleSingle sampleReplacing.2 sampleLast.1 sampleLast.2 ∧
      sampleLast.2.tasks[0]? = some (.run (.finished (.error (.exhausted 1)))) ∧
      ∃ r, sampleReplacing.2.tasks[0]? = some (.run r) ∧
        (r.Spent ∨ ∃ d ∈ deedsOf 0 sampleLast.1, d.goes.Spent) := by
  have waiting : Trace sampleSingle initial sampleWaiting.1 sampleWaiting.2 := .of_play _ _ _
  have invalid : Ack.validate "H0STCNI9" Connect.sampleAck =
      .error ⟨"H0STCNI9", "1", "OPSP0011", ""⟩ := by
    cbv
  have st : Connect.Step sampleSingle sampleRefusal.found sampleRefusal.stood sampleRefusal.met
      ⟨sampleRefusal.left, sampleRefusal.goes, sampleRefusal.did⟩ :=
    .attempting (.rejected rfl invalid)
  have refusal : Task.Valid sampleSingle sampleMove.deed :=
    Task.advance_iff.2 (.run (.connecting st))
  have replacing : Trace sampleSingle
      ⟨sampleWaiting.2.shared, sampleWaiting.2.tasks.set 0 sampleMove.deed.goes⟩ sampleReplacing.1
      sampleReplacing.2 := .of_play _ _ _
  have before : Trace sampleSingle initial (sampleWaiting.1 ++ [sampleMove] ++ sampleReplacing.1)
      sampleReplacing.2 := (waiting.act rfl rfl refusal).append replacing
  have run : Trace sampleSingle sampleReplacing.2 sampleLast.1 sampleLast.2 := .of_play _ _ _
  have returned : sampleLast.2.tasks[0]? = some (.run (.finished (.error (.exhausted 1)))) := by rfl
  have replaces : sampleReplacing.2.tasks[0]? =
      some (.run (.connecting (.reissuing (Retry.start sampleSingle.retry) Approval.reissue))) := by
    rfl
  have going : ∀ result, Run.connecting
      (.reissuing (Retry.start sampleSingle.retry) Approval.reissue) ≠ .finished result := by
    intro result same
    cases same
  obtain ⟨-, spends, -⟩ := result_of_stopped before replaces going (by rfl) run returned
  have fails : (.error (.exhausted 1) : Except ClientError Unit) ≠ .ok () := by
    intro same
    cases same
  exact ⟨before, by rfl, run, returned, _, replaces, spends.1 fails⟩

end System

end FillFeed.Client
