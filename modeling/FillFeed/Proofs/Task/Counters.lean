import Mathlib
import FillFeed.Proofs.Metrics.Recorder
import FillFeed.Proofs.Task.States

/-!
# Counters of a run

Counters are raised in four places: a call that connects counts its attempts and their failures, a
listener counts frames, fills and its own failure, and whoever obtains a key counts that it was
issued. `Task.Step.reckons` says what one step adds to them, next to what it changes about the calls
in progress: which of them wait for the handler, and which may still count a failure.

`System.counters_conserved` draws the balance of a run. The failures stay below the attempts since
every attempt is followed by one failure at most, its own or that of the listener that takes its
session over: the chance to count it is passed on from the attempt to the slot and from there to the
listener.
-/

namespace FillFeed

namespace Metric

/-- Whether frames are counted. -/
def isFrame : Metric → Bool
  | .framesReceived _ => true
  | _ => false

/-- Whether fills that were forwarded are counted. -/
def isForwarded : Metric → Bool
  | .executionsForwarded .. => true
  | _ => false

/-- Whether keys that were issued are counted. -/
def isIssued : Metric → Bool
  | .approvalKeysIssued _ => true
  | _ => false

/-- Whether failures are counted. -/
def isFailure : Metric → Bool
  | .connectFailures _ => true
  | _ => false

/-- The counters of one name are the ones that count frames. -/
lemma name_eq_frames : (fun m : Metric => decide (m.name = "kis_stream_frames_received_total")) =
    isFrame := by
  funext m
  cases m <;> simp [name, isFrame]

/-- The name of the fills that were forwarded is that of their counter only. -/
lemma name_eq_forwarded :
    (fun m : Metric => decide (m.name = "kis_stream_executions_forwarded_total")) =
      isForwarded := by
  funext m
  cases m <;> simp [name, isForwarded]

/-- The name of the keys that were issued is that of their counters only. -/
lemma name_eq_issued :
    (fun m : Metric => decide (m.name = "kis_stream_approval_keys_issued_total")) = isIssued := by
  funext m
  cases m <;> simp [name, isIssued]

/-- The name of the failures is that of their counters only. -/
lemma name_eq_failures :
    (fun m : Metric => decide (m.name = "kis_stream_connect_failures_total")) = isFailure := by
  funext m
  cases m <;> simp [name, isFailure]

end Metric

/-- What is published last is the state that is recorded. -/
lemma Recorder.state_observeAll (r : Recorder) (es : List Effect) :
    (r.observeAll es).state = (publications es).getLast?.or r.state := by
  induction es using List.reverseRecOn with
  | nil => rfl
  | append_singleton es e ih =>
    have step : r.observeAll (es ++ [e]) = (r.observeAll es).observe e := by
      rw [observeAll, List.foldl_append]
      rfl
    rw [step, publications_append]
    cases e with
    | published s =>
      rw [show publications [.published s] = [s] from rfl, List.getLast?_concat]
      rfl
    | _ =>
      rw [show publications [_] = [] from rfl, List.append_nil]
      exact ih

/-- Whether a new key comes with an answer. -/
def Reply.issues : Reply → Bool
  | .keyIssued (.ok _) => true
  | _ => false

namespace Client

/-- A change of the state counts nothing. -/
@[simp] lemma metrics_setState (s : Shared) (next : ConnectionState) :
    metrics (s.setState next).2 = [] :=
  filterMap_setState (fun _ _ => rfl) fun _ => rfl

/-- What is told about a closing counts nothing. -/
@[simp] lemma metrics_closeNotices (result : Except TransportError Unit) :
    metrics (closeNotices result) = [] :=
  filterMap_closeNotices fun _ => rfl

/-- Whether a new key comes with a happening. -/
def Happening.issues : Happening → Bool
  | .reply r _ => r.issues
  | _ => false

/-- Whether a call that listens deals with the bytes of a frame when it meets something. -/
def Listen.dispatches : Listen → Happening → Bool
  | .polling _ _, .reply (.received (.ok (some frame))) _ => frame.bytes?.isSome
  | _, _ => false

/-- Whether a call deals with the bytes of a frame when it meets something. -/
def Task.dispatches : Task → Happening → Bool
  | .listen l, h | .run (.listening l), h => l.dispatches h
  | _, _ => false

/-- Whether a call that listens waits for the handler. -/
def Listen.isHandling : Listen → Bool
  | .handling _ _ _ => true
  | _ => false

/-- Whether a call waits for the handler. -/
def Task.isHandling : Task → Bool
  | .listen l | .run (.listening l) => l.isHandling
  | _ => false

/-- Whether a call that connects may still count the failure of an attempt that it has counted. -/
def Connect.mayFail : Connect → Bool
  | .launching _ _ | .attempting _ _ | .parking _ => true
  | _ => false

/-- Whether a call that listens may still count its failure. -/
def Listen.mayFail : Listen → Bool
  | .starting _ | .polling _ _ | .pinging _ _ | .echoing _ _ | .handling _ _ _
  | .closing _ (.error _) => true
  | _ => false

/-- Whether a call may still count a failure after an attempt that was counted. -/
def Task.mayFail : Task → Bool
  | .connect c | .run (.connecting c) => c.mayFail
  | .listen l | .run (.listening l) => l.mayFail
  | _ => false

/-- What a step adds to the counters. A frame is counted when one is dealt with, and a key when one
is issued. A fill is counted before the handler gets it, and once more when the handler has
answered. A failure uses up one of the chances to count one, and an attempt brings one. -/
structure Reckons (dispatches issues handled handles : Bool) (spent left : Nat)
    (counted : List Metric) : Prop where
  frames : counted.countP Metric.isFrame = dispatches.toNat
  keys : counted.countP Metric.isIssued = issues.toNat
  fills : counted.count (.framesReceived .execution) + handled.toNat =
    counted.countP Metric.isForwarded + counted.count .handlerErrors + handles.toNat
  failures : counted.countP Metric.isFailure + left ≤ counted.count .connectAttempts + spent

section

variable {cfg : Config} {found : Shared} {h : Happening}

/-- A step that counts nothing does not bring a chance to count a failure. -/
lemma Reckons.of_nil {handles : Bool} {spent left : Nat} (fewer : left ≤ spent) :
    Reckons false false handles handles spent left [] :=
  ⟨rfl, rfl, rfl, by simpa using fewer⟩

/-- A request for a key counts the key that is issued. -/
lemma Approval.Step.reckons {stage : Approval.Stage} {r : Reply} {p : Approval.Progress}
    {did : List Effect} (st : Approval.Step stage r p did) (chances : Nat) :
    Reckons false r.issues false false chances chances (metrics did) := by
  cases st with
  | issued => exact ⟨rfl, rfl, rfl, le_rfl⟩
  | _ => exact .of_nil le_rfl

/-- An attempt counts the key that is issued for it. -/
lemma Attempt.Step.reckons {a : Attempt} {o : Attempt.Outcome} (st : Attempt.Step cfg found a h o)
    (chances : Nat) : Reckons false h.issues false false chances chances (metrics o.effects) := by
  cases st with
  | obtaining st | unobtained st => exact Approval.Step.reckons st chances
  | @obtained _ _ _ _ effects st =>
    have same : metrics (effects ++ [.began (.openTransport cfg.url)]) = metrics effects := by
      rw [metrics_append]
      exact List.append_nil _
    dsimp only
    rw [same]
    exact Approval.Step.reckons st chances
  | opened =>
    have quiet (t : TransportId) (es : List Effect) : metrics (.opened t :: es) = metrics es := rfl
    rw [metrics, filterMap_subscribe fun _ _ => rfl, ← metrics, quiet, metrics_setState]
    exact .of_nil le_rfl
  | accepted =>
    rw [metrics, filterMap_subscribe fun _ _ => rfl]
    exact .of_nil le_rfl
  | abandoned =>
    rw [metrics_closeNotices]
    exact .of_nil le_rfl
  | _ => exact .of_nil le_rfl

/-- Whether a session is parked depends on the slot alone. -/
lemma Shared.hasSession_congr {s s' : Shared} (slot : s'.slot = s.slot) :
    s'.hasSession = s.hasSession := by
  rw [hasSession, slot, hasSession]

/-- Whether a session is parked does not change when the state is set. -/
@[simp] lemma Shared.setState_hasSession {s : Shared} {next : ConnectionState} :
    (s.setState next).1.hasSession = s.hasSession :=
  hasSession_congr setState_slot

/-- What a call counts about a failed attempt. -/
lemma Connect.metrics_failed {shared : Shared} {retry : Retry} {cause : ClientError}
    {effects : List Effect} :
    metrics (Connect.failed cfg shared retry cause effects).effects =
      metrics effects ++ [.connectFailures cause.reason] := by
  obtain ⟨rejection, -, e⟩ | ⟨-, e⟩ := failed_cases cfg shared retry cause effects
  · rw [e]
    simp only [metrics_append, metrics_setState, List.append_assoc]
    rfl
  · rw [e]
    simp only [metrics_append, metrics_setState, List.append_assoc]
    rfl

/-- After a failed attempt no failure is left to be counted. -/
lemma Connect.mayFail_failed {shared : Shared} {retry : Retry} {cause : ClientError}
    {effects : List Effect} :
    (Connect.failed cfg shared retry cause effects).next.mayFail = false := by
  obtain ⟨rejection, -, e⟩ | ⟨-, e⟩ := failed_cases cfg shared retry cause effects
  · rw [e]
    rfl
  · rw [e]
    rfl

/-- A failure that is counted uses up a chance to count one. -/
lemma Reckons.fail {issues : Bool} {chances : Nat} {counted : List Metric} {reason : String}
    (reckons : Reckons false issues false false chances chances counted) :
    Reckons false issues false false (chances + 1) chances
      (counted ++ [.connectFailures reason]) := by
  obtain ⟨frames, keys, fills, failures⟩ := reckons
  constructor
  · rw [List.countP_append, frames]
    rfl
  · rw [List.countP_append, keys]
    rfl
  · rw [List.count_append, List.count_append, List.countP_append]
    exact fills
  · have one : [Metric.connectFailures reason].countP Metric.isFailure = 1 := rfl
    rw [List.countP_append, List.count_append, one]
    omega

/-- A call that connects counts an attempt when it announces it, and its failure. -/
lemma Connect.Step.reckons {c : Connect} {o : Connect.Outcome} (st : Connect.Step cfg found c h o) :
    Reckons false h.issues false false (found.hasSession.toNat + c.mayFail.toNat)
      (o.shared.hasSession.toNat + o.next.mayFail.toNat) (metrics o.effects) := by
  cases st with
  | @announced retry =>
    have counted : metrics ((found.setState .connecting).2 ++ [.counted .connectAttempts,
        .noted (.connecting cfg.url (retry.failures + 1) retry.plan.attempts)]) =
        [.connectAttempts] := by
      rw [metrics_append, metrics_setState]
      rfl
    dsimp only
    rw [counted, Shared.setState_hasSession]
    have failures : 0 + (found.hasSession.toNat + 1) ≤ 1 + (found.hasSession.toNat + 0) := by omega
    exact ⟨rfl, rfl, rfl, failures⟩
  | @attempting _ _ _ shared' _ _ st | @succeeded _ _ _ shared' _ _ st =>
    have same : shared'.hasSession = found.hasSession := Shared.hasSession_congr st.shared_eq.1
    dsimp only
    rw [same]
    exact st.reckons _
  | @failed _ _ _ shared' _ _ st =>
    have same : shared'.hasSession = found.hasSession := Shared.hasSession_congr st.shared_eq.1
    rw [metrics_failed, failed_shared, Shared.setState_hasSession, same, mayFail_failed]
    exact (st.reckons _).fail
  | @launched retry carried => cases carried <;> exact .of_nil le_rfl
  | reissuing st | reissued st => exact Approval.Step.reckons st _
  | @unreissued _ _ _ _ e effects st =>
    have same : metrics (effects ++ [.noted (.reissueFailed e)]) = metrics effects := by
      rw [metrics_append]
      exact List.append_nil _
    dsimp only
    rw [same]
    exact Approval.Step.reckons st _
  -- the session brings its chance to the slot, and takes the place of one that was there
  | parked => exact .of_nil (by simp [Shared.hasSession, mayFail])
  | parkedOver => exact .of_nil (by simp [Shared.hasSession, mayFail])
  | replaced | discarded =>
    rw [metrics_closeNotices]
    exact .of_nil le_rfl
  | @published encrypted =>
    have uncounted : metrics ((found.setState .connected).2 ++
        [.noted (.subscribed cfg.subscriptions.length encrypted)]) = [] := by
      rw [metrics_append, metrics_setState]
      rfl
    dsimp only
    rw [uncounted, Shared.setState_hasSession]
    exact .of_nil le_rfl
  | gone | withdrawn => exact .of_nil (Nat.zero_le _)
  | unlaunched | dropped => exact .of_nil (Nat.le_add_right _ _)
  | _ => exact .of_nil le_rfl

/-- A call that stops the client counts nothing. -/
lemma Stop.Step.reckons {s : Stop} {o : Stop.Outcome} (st : Stop.Step cfg found s h o) :
    Reckons false h.issues false false found.hasSession.toNat o.shared.hasSession.toNat
      (metrics o.effects) := by
  cases st with
  | published =>
    obtain e | e := found.shutDown_cases
    · rw [e]
      exact .of_nil le_rfl
    · rw [e]
      exact .of_nil le_rfl
  | @closed _ result =>
    have uncounted : metrics (closeNotices result ++ [.began .releaseCache]) = [] := by
      rw [metrics_append, metrics_closeNotices]
      rfl
    dsimp only
    rw [uncounted]
    exact .of_nil le_rfl
  | unparked | took => exact .of_nil (Nat.zero_le _)
  | _ => exact .of_nil le_rfl

/-- A listener that ends counts its failure, if it has failed. -/
lemma Listen.conclude_reckons {t : TransportId} {result : Except ClientError Unit}
    {effects : List Effect} (uncounted : metrics effects = []) :
    Reckons false false false false (found.hasSession.toNat + (closing t result).mayFail.toNat)
      ((conclude found result effects).shared.hasSession.toNat + (finished result).mayFail.toNat)
      (metrics (conclude found result effects).effects) := by
  cases result with
  | ok =>
    dsimp only [conclude]
    rw [uncounted]
    exact .of_nil le_rfl
  | error e =>
    have counted : metrics (effects ++ (found.setState .disconnected).2 ++
        [.counted (.connectFailures e.reason)]) = [.connectFailures e.reason] := by
      rw [metrics_append, metrics_append, uncounted, metrics_setState]
      rfl
    dsimp only [conclude]
    rw [counted, Shared.setState_hasSession]
    exact (Reckons.of_nil le_rfl).fail

/-- A call that listens counts the frames that it deals with, the fills that the handler has
answered, and its failure. -/
lemma Listen.Step.reckons {l : Listen} {o : Listen.Outcome} (st : Listen.Step cfg found l h o) :
    Reckons (l.dispatches h) h.issues l.isHandling o.next.isHandling
      (found.hasSession.toNat + l.mayFail.toNat) (o.shared.hasSession.toNat + o.next.mayFail.toNat)
      (metrics o.effects) := by
  cases st with
  | closed =>
    rw [conclude_next]
    exact conclude_reckons (metrics_closeNotices _)
  | closedLate =>
    rw [conclude_next]
    exact conclude_reckons rfl
  | skipped bytes | echoing bytes | controlled bytes | handling bytes =>
    refine ⟨?_, rfl, rfl, le_rfl⟩
    rw [dispatches, bytes]
    rfl
  -- the chance to count a failure comes with the session
  | took full => exact .of_nil (by simp [Shared.hasSession, mayFail, full])
  | handled | unhandled => exact ⟨rfl, rfl, rfl, le_rfl⟩
  | unconnected => exact .of_nil (Nat.zero_le _)
  | crashed | cancelled => exact .of_nil (Nat.le_add_right _ _)
  | _ => exact .of_nil le_rfl

/-- A call that turns from connecting to listening has no failure to count that it did not have
before. -/
lemma Run.mayFail_afterConnect (c : Connect) : (Task.run (afterConnect c)).mayFail = c.mayFail := by
  unfold afterConnect
  split <;> rfl

/-- A call that turns from connecting to listening does not wait for the handler. -/
lemma Run.isHandling_afterConnect (c : Connect) :
    (Task.run (afterConnect c)).isHandling = false := by
  unfold afterConnect
  split <;> rfl

/-- A call that keeps the feed running may count a failure where its listener may. -/
lemma Run.mayFail_afterListen (l : Listen) : (Task.run (afterListen l)).mayFail = l.mayFail := by
  unfold afterListen
  split <;> rfl

/-- A call that keeps the feed running waits for the handler where its listener does. -/
lemma Run.isHandling_afterListen (l : Listen) :
    (Task.run (afterListen l)).isHandling = l.isHandling := by
  unfold afterListen
  split <;> rfl

/-- A call that keeps the feed running counts what it counts when it connects or listens. -/
lemma Run.Step.reckons {r : Run} {o : Run.Outcome} (st : Run.Step cfg found r h o) :
    Reckons ((Task.run r).dispatches h) h.issues (Task.run r).isHandling
      (Task.run o.next).isHandling (found.hasSession.toNat + (Task.run r).mayFail.toNat)
      (o.shared.hasSession.toNat + (Task.run o.next).mayFail.toNat) (metrics o.effects) := by
  cases st with
  | connecting st =>
    rw [mayFail_afterConnect, isHandling_afterConnect]
    exact st.reckons
  | @listening _ _ o st =>
    have same : metrics (o.effects ++ listenEffects o.next) = metrics o.effects := by
      have uncounted : metrics (listenEffects o.next) = [] := filterMap_listenEffects rfl
      rw [metrics_append, uncounted, List.append_nil]
    rw [mayFail_afterListen, isHandling_afterListen, same]
    exact st.reckons
  | stopped | restarted => exact .of_nil le_rfl

/-- What a step of a call adds to the counters. -/
lemma Task.Step.reckons {t : Task} {o : Task.Outcome} (st : Task.Step cfg found t h o) :
    Reckons (t.dispatches h) h.issues t.isHandling o.next.isHandling
      (found.hasSession.toNat + t.mayFail.toNat) (o.shared.hasSession.toNat + o.next.mayFail.toNat)
      (metrics o.effects) := by
  cases st with
  | connect st => exact st.reckons
  | listen st => exact st.reckons
  | run st => exact st.reckons
  | stop st => exact st.reckons

/-- A call that was just made has counted nothing. -/
lemma Task.Fresh.uncounted {t : Task} (fresh : Task.Fresh cfg t) :
    t.isHandling = false ∧ t.mayFail = false := by
  cases fresh <;> exact ⟨rfl, rfl⟩

/-- Setting the state leaves it alone, or publishes it. -/
lemma Sets.publishes {left : Shared} {did : List Effect} {next : ConnectionState}
    (sets : Sets next found left did) :
    Steady found left did ∨ publications did = [left.state] := by
  obtain ⟨state, told⟩ := sets
  obtain e | e := found.setState_cases next
  · rw [e] at state told
    exact .inl ⟨state, told⟩
  · rw [e] at state told
    exact .inr (state ▸ told)

/-- A step leaves the state alone, or publishes the one that it leaves. -/
lemma Task.Step.publishes {t : Task} {o : Task.Outcome} (st : Task.Step cfg found t h o) :
    Steady found o.shared o.effects ∨ publications o.effects = [o.shared.state] := by
  cases st with
  | connect st =>
    obtain ⟨steady, -⟩ | ⟨_, _, -, -, -, -, sets⟩ := st.state_cases
    · exact .inl steady
    · exact sets.publishes
  | listen st =>
    obtain ⟨steady, -⟩ | ⟨-, sets⟩ := st.state_cases
    · exact .inl steady
    · exact sets.publishes
  | run st =>
    obtain ⟨steady, -⟩ | ⟨_, _, -, -, -, -, sets⟩ := st.state_cases
    · exact .inl steady
    · exact sets.publishes
  | stop st =>
    obtain steady | ⟨-, state, told⟩ := st.state_cases
    · exact .inl steady
    · exact .inr (state ▸ told)

end

namespace System

/-- The balance of a run: what was counted up to some point of it, next to what has happened so far
and to the calls that are in progress then. -/
structure Reckoned (ms : List Move) (sys : System) (counted : List Metric) : Prop where
  frames : counted.countP Metric.isFrame = ms.countP fun m => m.deed.stood.dispatches m.deed.met
  keys : counted.countP Metric.isIssued = ms.countP fun m => m.deed.met.issues
  fills : counted.count (.framesReceived .execution) =
    counted.countP Metric.isForwarded + counted.count .handlerErrors +
      sys.tasks.countP Task.isHandling
  failures : counted.countP Metric.isFailure +
    (sys.shared.hasSession.toNat + sys.tasks.countP Task.mayFail) ≤ counted.count .connectAttempts

section

variable {cfg : Config} {sys : System} {ms : List Move}

/-- What one element is replaced by is all that changes in a count. -/
lemma countP_set {α : Type} {p : α → Bool} {x y : α} {xs : List α} {i : Nat}
    (at_i : xs[i]? = some x) :
    (xs.set i y).countP p + (p x).toNat = xs.countP p + (p y).toNat := by
  have one (z : α) (zs : List α) : (z :: zs).countP p = zs.countP p + (p z).toNat := by
    rw [List.countP_cons]
    cases p z <;> rfl
  induction xs generalizing i with
  | nil => cases at_i
  | cons z zs ih =>
    cases i with
    | zero =>
      cases at_i
      rw [List.set_cons_zero, one, one]
      omega
    | succ i =>
      have rest := ih at_i
      rw [List.set_cons_succ, one, one]
      omega

/-- The counters of a run balance. -/
lemma Trace.reckoned (run : Trace cfg initial ms sys) :
    Reckoned ms sys (metrics (seenOf ms)) := by
  induction run with
  | refl => exact ⟨rfl, rfl, rfl, le_rfl⟩
  | call _ fresh ih =>
    obtain ⟨handles, chance⟩ := fresh.uncounted
    obtain ⟨frames, keys, fills, failures⟩ := ih
    refine ⟨frames, keys, ?_, ?_⟩
    · simpa [handles] using fills
    · simpa [chance] using failures
  | @act b ms i d _ at_i found valid ih =>
    obtain ⟨frames, keys, fills, failures⟩ := ih
    obtain ⟨frames', keys', fills', failures'⟩ := valid.step.reckons
    have last (p : Move → Bool) (m : Move) : (ms ++ [m]).countP p = ms.countP p + (p m).toNat := by
      rw [List.countP_append, List.countP_singleton]
      cases p m <;> rfl
    -- no other task moves, so that the numbers of tasks change by the one that does
    have handling : (b.tasks.set i d.goes).countP Task.isHandling + d.stood.isHandling.toNat =
        b.tasks.countP Task.isHandling + d.goes.isHandling.toNat := countP_set at_i
    have chances : (b.tasks.set i d.goes).countP Task.mayFail + d.stood.mayFail.toNat =
        b.tasks.countP Task.mayFail + d.goes.mayFail.toNat := countP_set at_i
    rw [found] at failures'
    rw [seenOf_concat, metrics_append]
    constructor
    · rw [List.countP_append, last, frames, frames']
    · rw [List.countP_append, last, keys, keys']
    · simp only [List.count_append, List.countP_append]
      dsimp only at fills' handling ⊢
      omega
    · simp only [List.count_append, List.countP_append]
      dsimp only at failures' chances ⊢
      omega

/-- What is published last is the state of the client. -/
lemma Trace.publishes_state (run : Trace cfg initial ms sys)
    (told : publications (seenOf ms) ≠ []) :
    (publications (seenOf ms)).getLast? = some sys.shared.state := by
  induction run with
  | refl => exact absurd rfl told
  | call _ _ ih => exact ih told
  | @act b ms i d _ _ found valid ih =>
    rw [seenOf_concat, publications_append] at told ⊢
    obtain ⟨same, untold⟩ | published := valid.step.publishes
    · dsimp only at same untold ⊢
      rw [untold, List.append_nil] at told ⊢
      rw [same, found]
      exact ih told
    · dsimp only at published ⊢
      rw [published, List.getLast?_concat]

/-- What a fresh recorder has recorded after some moves. -/
def recorded (ms : List Move) : Recorder := Recorder.empty.observeAll (seenOf ms)

/-- In every run the counters of a recorder that was fresh at its beginning balance, whatever calls
are in progress. Every frame that brought bytes to a listener is counted once. Every fill was
forwarded, or refused by its handler, or its handler has not answered yet. Every key that was issued
is counted once. There are at most as many failures, those of listeners included, as attempts. And
the state that is recorded, if any was published, is the one that the client is in. -/
theorem counters_conserved (run : Trace cfg initial ms sys) :
    (recorded ms).total "kis_stream_frames_received_total" =
        ms.countP (fun m => m.deed.stood.dispatches m.deed.met) ∧
      (recorded ms).get (.framesReceived .execution) =
        (recorded ms).total "kis_stream_executions_forwarded_total" +
          (recorded ms).get .handlerErrors + sys.tasks.countP Task.isHandling ∧
      (recorded ms).total "kis_stream_approval_keys_issued_total" =
        ms.countP (fun m => m.deed.met.issues) ∧
      (recorded ms).total "kis_stream_connect_failures_total" ≤
        (recorded ms).get .connectAttempts ∧
      (publications (seenOf ms) ≠ [] → (recorded ms).state = some sys.shared.state) := by
  obtain ⟨frames, keys, fills, failures⟩ := run.reckoned
  have gets (m : Metric) : (recorded ms).get m = (metrics (seenOf ms)).count m := by
    rw [recorded, Recorder.get_observeAll]
    exact Nat.zero_add _
  have totals (name : String) :
      (recorded ms).total name = (metrics (seenOf ms)).countP (·.name = name) := by
    rw [recorded, Recorder.total_observeAll]
    exact Nat.zero_add _
  refine ⟨?_, ?_, ?_, ?_, ?_⟩
  · rw [totals, Metric.name_eq_frames, frames]
  · rw [gets, gets, totals, Metric.name_eq_forwarded, fills]
  · rw [totals, Metric.name_eq_issued, keys]
  · rw [gets, totals, Metric.name_eq_failures]
    omega
  · intro told
    rw [recorded, Recorder.state_observeAll, run.publishes_state told]
    rfl

end

/-- A call has a key issued, gets no transport, and connects at its second attempt. Then a listener
sends a keepalive back, and hands over two fills, of which the second one is still with the
handler. -/
def sampleTally : List Move × System :=
  play (Config.of "ws://feed" []) initial
    [.connect, .listen, .meet 0 .proceed, .meet 0 .proceed, .meet 0 .proceed,
      .meet 0 (.reply (.cacheRead (.ok none)) ⟨0⟩),
      .meet 0 (.reply (.keyIssued (.ok Connect.sampleOld)) ⟨1⟩),
      .meet 0 (.reply (.cacheWritten (.ok ())) ⟨2⟩),
      .meet 0 (.reply (.opened (.error (.connect "refused"))) ⟨3⟩),
      .meet 0 (.drawn Connect.sampleDraw), .meet 0 .elapsed, .meet 0 .proceed, .meet 0 .proceed,
      .meet 0 .proceed, .meet 0 (.reply (.cacheRead (.ok (some "old"))) ⟨4⟩),
      .meet 0 (.reply (.opened (.ok ())) ⟨5⟩), .meet 0 .proceed, .meet 0 .proceed,
      .meet 0 .proceed, .meet 1 .proceed, .meet 1 (.tick ⟨6⟩),
      .meet 1 (.reply (.received (.ok (some (.text "PINGPONG")))) ⟨7⟩),
      .meet 1 (.reply (.sent (.ok ())) ⟨8⟩),
      .meet 1 (.reply (.received (.ok (some (.text "0|S|x|AAPL^02")))) ⟨9⟩),
      .meet 1 (.reply (.handled (.ok ())) ⟨10⟩),
      .meet 1 (.reply (.received (.ok (some (.text "0|S|x|AAPL^02")))) ⟨11⟩)]

/-- In the sample three frames were dealt with, two of them fills, one key was issued, and one of
two attempts has failed. -/
theorem sampleTally_conserved :
    (recorded sampleTally.1).total "kis_stream_frames_received_total" = 3 ∧
      (recorded sampleTally.1).get (.framesReceived .execution) = 1 + 0 + 1 ∧
      (recorded sampleTally.1).total "kis_stream_approval_keys_issued_total" = 1 ∧
      (recorded sampleTally.1).total "kis_stream_connect_failures_total" = 1 ∧
      (recorded sampleTally.1).get .connectAttempts = 2 ∧
      (recorded sampleTally.1).total "kis_stream_connect_failures_total" ≤
        (recorded sampleTally.1).get .connectAttempts ∧
      (recorded sampleTally.1).state = some .connected := by
  have run : Trace (Config.of "ws://feed" []) initial sampleTally.1 sampleTally.2 := .of_play _ _ _
  have told : publications (seenOf sampleTally.1) =
      [.connecting, .disconnected, .connecting, .subscribing, .connected] := by rfl
  obtain ⟨frames, fills, keys, failures, state⟩ := counters_conserved run
  have published : publications (seenOf sampleTally.1) ≠ [] := by
    rw [told]
    exact nofun
  exact ⟨frames.trans (by rfl), fills.trans (by rfl), keys.trans (by rfl), by rfl, by rfl,
    failures, (state published).trans (by rfl)⟩

end System

end Client

end FillFeed
