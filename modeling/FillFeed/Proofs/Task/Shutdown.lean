import Mathlib
import FillFeed.Proofs.Task.Trace

/-!
# Shutdown

A call that stops the client signals so and then takes the parked session, while a call that
connects parks its session and then looks for the signal. Whichever of the two comes last finds what
the other one left: once the signal is given, the slot is empty after it was taken or some call is
about to empty it (`System.Cleared`). A call that looks for the signal before it begins an attempt
never parks any more (`Task.Settled`), and one that is past that point begins at most one attempt
and at most one replacement of the key (`Task.dialsLeft`, `Task.reissuesLeft`). Replacements are
counted by what is told about them, which is once for each that begins
(`Task.replacements_of_course`).

`System.spends_and_empties_of_stopped` puts the three together.
-/

namespace FillFeed

/-- The address to which a transport is opened. -/
def Effect.dialed? : Effect → Option String
  | .began (.openTransport url) => some url
  | _ => none

/-- The rejection for which a key is replaced, which is told as the replacement begins. -/
def Effect.replaced? : Effect → Option Rejection
  | .noted (.keyRejected cause) => some cause
  | _ => none

/-- The addresses to which transports are opened, as often as they are. -/
def dialed (es : List Effect) : List String := es.filterMap Effect.dialed?

/-- The rejections for which keys are replaced. -/
def replacements (es : List Effect) : List Rejection := es.filterMap Effect.replaced?

/-- What is dialed is put together like what is done. -/
@[simp] lemma dialed_append (xs ys : List Effect) : dialed (xs ++ ys) = dialed xs ++ dialed ys :=
  List.filterMap_append

/-- Replacements are put together like what is done. -/
@[simp] lemma replacements_append (xs ys : List Effect) :
    replacements (xs ++ ys) = replacements xs ++ replacements ys :=
  List.filterMap_append

namespace Client

/-- A change of the state dials nothing. -/
@[simp] lemma dialed_setState (s : Shared) (next : ConnectionState) :
    dialed (s.setState next).2 = [] :=
  filterMap_setState (fun _ _ => rfl) fun _ => rfl

/-- A change of the state replaces no key. -/
@[simp] lemma replacements_setState (s : Shared) (next : ConnectionState) :
    replacements (s.setState next).2 = [] :=
  filterMap_setState (fun _ _ => rfl) fun _ => rfl

/-- What is told about a closing dials nothing. -/
@[simp] lemma dialed_closeNotices (result : Except TransportError Unit) :
    dialed (closeNotices result) = [] :=
  filterMap_closeNotices fun _ => rfl

/-- What is told about a closing replaces no key. -/
@[simp] lemma replacements_closeNotices (result : Except TransportError Unit) :
    replacements (closeNotices result) = [] :=
  filterMap_closeNotices fun _ => rfl

/-- A call that connects is behind its last look at the signal to stop, or will look before it parks
a session. -/
def Connect.Settled : Connect → Prop
  | .announcing _ _ | .launching _ _ | .attempting _ _ | .parking _ | .replacing _ _ | .confirming _
  | .withdrawing => False
  | _ => True

/-- A call that connects has parked a session and is about to look for the signal to stop, or to
take the session back. -/
def Connect.Clears : Connect → Prop
  | .replacing _ _ | .confirming _ | .withdrawing => True
  | _ => False

/-- A call that keeps the feed running is not connecting, or settled. -/
def Run.Settled : Run → Prop
  | .connecting c => c.Settled
  | _ => True

/-- A call that keeps the feed running is connecting and about to empty the slot. -/
def Run.Clears : Run → Prop
  | .connecting c => c.Clears
  | _ => False

/-- A call that will never park a session once the client is stopped. -/
def Task.Settled : Task → Prop
  | .connect c => c.Settled
  | .run r => r.Settled
  | _ => True

/-- A call that is about to empty the slot once the client is stopped. -/
def Task.Clears : Task → Prop
  | .connect c => c.Clears
  | .run r => r.Clears
  | _ => False

/-- A call that stops the client has signalled so. -/
def Stop.HasSignalled : Stop → Prop
  | .signalling => False
  | _ => True

/-- A call that stops the client has taken the parked session. -/
def Stop.HasTaken : Stop → Prop
  | .signalling | .publishing | .taking => False
  | _ => True

/-- A call that is connecting, as such or to keep the feed running. -/
def Task.Connecting : Task → Prop
  | .connect (.crashed _) | .connect (.finished _) | .run (.connecting (.crashed _)) => False
  | .connect _ | .run (.connecting _) => True
  | _ => False

/-- The slot after a step on a stopped client: it is empty, or left alone by a call that goes on
emptying it if it was about to, or the call is now about to empty it. -/
def Clearing (found left : Shared) (before after : Prop) : Prop :=
  left.slot = none ∨ (left.slot = found.slot ∧ (before → after)) ∨ after

section

variable {cfg : Config} {shared : Shared} {h : Happening}

/-- A call that connects leaves the signal to stop alone. -/
lemma Connect.Step.stopped_eq {c : Connect} {o : Connect.Outcome}
    (st : Connect.Step cfg shared c h o) : o.shared.stopped = shared.stopped := by
  cases st with
  | announced => exact Shared.setState_stopped
  | attempting st => exact st.shared_eq.2
  | succeeded st => exact st.shared_eq.2
  | failed st =>
    rw [failed_shared, Shared.setState_stopped]
    exact st.shared_eq.2
  | published => exact Shared.setState_stopped
  | _ => rfl

/-- A call that connects stays settled once the client is stopped, and then it does not park. -/
lemma Connect.Step.settled {c : Connect} {o : Connect.Outcome} (st : Connect.Step cfg shared c h o)
    (stopped : shared.stopped = true) (settled : c.Settled) :
    o.next.Settled ∧ (o.shared.slot = shared.slot ∨ o.shared.slot = none) := by
  cases st with
  | cleared free => cases stopped.symm.trans free
  | halted | reissuing | reissued | unreissued | exhausted | unpausable | paused | woken | resumed
  | discarded | discardedLate => exact ⟨trivial, .inl rfl⟩
  | published => exact ⟨trivial, .inl Shared.setState_slot⟩
  | _ => exact settled.elim

/-- A call that parks a session on a stopped client goes on to empty the slot. -/
lemma Connect.Step.clearing {c : Connect} {o : Connect.Outcome} (st : Connect.Step cfg shared c h o)
    (stopped : shared.stopped = true) : Clearing shared o.shared c.Clears o.next.Clears := by
  cases st with
  | announced => exact .inr (.inl ⟨Shared.setState_slot, False.elim⟩)
  | attempting st => exact .inr (.inl ⟨st.shared_eq.1, False.elim⟩)
  | succeeded st => exact .inr (.inl ⟨st.shared_eq.1, False.elim⟩)
  | failed st =>
    refine .inr (.inl ⟨?_, False.elim⟩)
    rw [failed_shared, Shared.setState_slot]
    exact st.shared_eq.1
  | parked | parkedOver => exact .inr (.inr trivial)
  | replaced | replacedLate | revoked => exact .inr (.inr trivial)
  | confirmed free => cases stopped.symm.trans free
  | gone | withdrawn => exact .inl rfl
  | published => exact .inr (.inl ⟨Shared.setState_slot, False.elim⟩)
  | _ => exact .inr (.inl ⟨rfl, False.elim⟩)

/-- A call that listens leaves the signal to stop alone, and does not park. -/
lemma Listen.Step.shared_cases {l : Listen} {o : Listen.Outcome}
    (st : Listen.Step cfg shared l h o) :
    o.shared.stopped = shared.stopped ∧
      (o.shared.slot = shared.slot ∨ o.shared.slot = none) := by
  cases st with
  | unconnected | took => exact ⟨rfl, .inr rfl⟩
  | closed | closedLate => exact ⟨conclude_stopped, .inl conclude_slot⟩
  | _ => exact ⟨rfl, .inl rfl⟩

/-- A call that stops the client does not take the signal back, and does not park. -/
lemma Stop.Step.shared_cases {s : Stop} {o : Stop.Outcome} (st : Stop.Step cfg shared s h o) :
    (shared.stopped = true → o.shared.stopped = true) ∧
      (o.shared.slot = shared.slot ∨ o.shared.slot = none) := by
  cases st with
  | signalled => exact ⟨fun _ => rfl, .inl rfl⟩
  | published => exact ⟨fun stopped => by simpa using stopped, .inl Shared.shutDown_slot⟩
  | unparked | took => exact ⟨id, .inr rfl⟩
  | _ => exact ⟨id, .inl rfl⟩

/-- A call that stops the client signals so before all else. -/
lemma Stop.Step.hasSignalled {s : Stop} {o : Stop.Outcome} (st : Stop.Step cfg shared s h o) :
    s.HasSignalled ∨ o.shared.stopped = true := by
  cases st with
  | signalled => exact .inr rfl
  | _ => exact .inl trivial

/-- A call that stops the client takes what is parked before it goes on. -/
lemma Stop.Step.hasTaken {s : Stop} {o : Stop.Outcome} (st : Stop.Step cfg shared s h o)
    (taken : o.next.HasTaken) : s.HasTaken ∨ o.shared.slot = none := by
  cases st with
  | signalled | published => exact taken.elim
  | unparked | took => exact .inr rfl
  | _ => exact .inl trivial

/-- A call that turns from connecting to listening is as settled as it was. -/
lemma Run.settled_afterConnect {c : Connect} (settled : c.Settled) :
    (afterConnect c).Settled := by
  unfold afterConnect
  split
  · trivial
  · trivial
  · trivial
  · exact settled

/-- A call that is about to empty the slot has not finished connecting. -/
lemma Run.clears_afterConnect (c : Connect) : (afterConnect c).Clears ↔ c.Clears := by
  unfold afterConnect
  split <;> rfl

/-- A call that listens is settled. -/
lemma Run.settled_afterListen (l : Listen) : (afterListen l).Settled := by
  unfold afterListen
  split <;> trivial

/-- A call that is settled stays so on a stopped client, and parks nothing. -/
lemma Run.Step.settled {r : Run} {o : Run.Outcome} (st : Run.Step cfg shared r h o)
    (stopped : shared.stopped = true) (settled : r.Settled) :
    o.next.Settled ∧ (o.shared.slot = shared.slot ∨ o.shared.slot = none) := by
  cases st with
  | connecting st =>
    obtain ⟨next, slot⟩ := st.settled stopped settled
    exact ⟨settled_afterConnect next, slot⟩
  | listening st => exact ⟨settled_afterListen _, st.shared_cases.2⟩
  | stopped => exact ⟨trivial, .inl rfl⟩
  | restarted free => cases stopped.symm.trans free

/-- A step of a call that keeps the feed running on a stopped client does to the slot what it may.
-/
lemma Run.Step.clearing {r : Run} {o : Run.Outcome} (st : Run.Step cfg shared r h o)
    (stopped : shared.stopped = true) : Clearing shared o.shared r.Clears o.next.Clears := by
  cases st with
  | connecting st =>
    obtain empty | ⟨same, keeps⟩ | clears := st.clearing stopped
    · exact .inl empty
    · exact .inr (.inl ⟨same, fun before => (clears_afterConnect _).2 (keeps before)⟩)
    · exact .inr (.inr ((clears_afterConnect _).2 clears))
  | listening st =>
    obtain same | empty := st.shared_cases.2
    · exact .inr (.inl ⟨same, False.elim⟩)
    · exact .inl empty
  | stopped | restarted => exact .inr (.inl ⟨rfl, False.elim⟩)

/-- The signal to stop is not taken back. -/
lemma Task.Step.stopped {t : Task} {o : Task.Outcome} (st : Task.Step cfg shared t h o)
    (stopped : shared.stopped = true) : o.shared.stopped = true := by
  cases st with
  | connect st => exact st.stopped_eq.trans stopped
  | listen st => exact st.shared_cases.1.trans stopped
  | run st =>
    cases st with
    | connecting st => exact st.stopped_eq.trans stopped
    | listening st => exact st.shared_cases.1.trans stopped
    | stopped | restarted => exact stopped
  | stop st => exact st.shared_cases.1 stopped

/-- A call stays settled once the client is stopped, and then it does not park. -/
lemma Task.Step.settled {t : Task} {o : Task.Outcome} (st : Task.Step cfg shared t h o)
    (stopped : shared.stopped = true) (settled : t.Settled) :
    o.next.Settled ∧ (o.shared.slot = shared.slot ∨ o.shared.slot = none) := by
  cases st with
  | connect st => exact st.settled stopped settled
  | listen st => exact ⟨trivial, st.shared_cases.2⟩
  | run st => exact st.settled stopped settled
  | stop st => exact ⟨trivial, st.shared_cases.2⟩

/-- A call that parks a session on a stopped client goes on to empty the slot. -/
lemma Task.Step.clearing {t : Task} {o : Task.Outcome} (st : Task.Step cfg shared t h o)
    (stopped : shared.stopped = true) : Clearing shared o.shared t.Clears o.next.Clears := by
  cases st with
  | connect st => exact st.clearing stopped
  | listen st =>
    obtain same | empty := st.shared_cases.2
    · exact .inr (.inl ⟨same, False.elim⟩)
    · exact .inl empty
  | run st => exact st.clearing stopped
  | stop st =>
    obtain same | empty := st.shared_cases.2
    · exact .inr (.inl ⟨same, False.elim⟩)
    · exact .inl empty

/-- A call that is not connecting is settled. -/
lemma Task.settled_of_not_connecting {t : Task} (done : ¬t.Connecting) : t.Settled := by
  cases t with
  | connect c =>
    cases c with
    | crashed | finished => trivial
    | _ => exact absurd trivial done
  | run r =>
    cases r with
    | connecting c =>
      cases c with
      | crashed => trivial
      | _ => exact absurd trivial done
    | _ => trivial
  | listen | stop => trivial

/-- A call that is about to empty the slot is not settled. -/
lemma Task.not_clears_of_settled {t : Task} (settled : t.Settled) : ¬t.Clears := by
  cases t with
  | connect c => cases c <;> first | exact id | exact settled.elim
  | run r =>
    cases r with
    | connecting c => cases c <;> first | exact id | exact settled.elim
    | _ => exact id
  | listen | stop => exact id

/-- A call that was just made is settled. -/
lemma Task.Fresh.settled {t : Task} (fresh : Task.Fresh cfg t) : t.Settled := by
  cases fresh <;> trivial

end

/-- The transports that an attempt may still open. -/
def Attempt.dialsLeft : Attempt → Nat
  | .credential _ => 1
  | _ => 0

/-- The transports that an attempt may still open when it goes on. -/
def Attempt.Progress.dialsLeft : Attempt.Progress → Nat
  | .waits a => a.dialsLeft
  | .done _ => 0

/-- The transports that a call that connects may still open once the client is stopped. -/
def Connect.dialsLeft : Connect → Nat
  | .announcing _ _ | .launching _ _ => 1
  | .attempting _ a => a.dialsLeft
  | _ => 0

/-- The replacements of the key that a call that connects may still begin once the client is
stopped. -/
def Connect.reissuesLeft : Connect → Nat
  | .announcing _ _ | .launching _ _ | .attempting _ _ => 1
  | _ => 0

/-- A call that connects has begun to replace the key, and waits for the new one. -/
def Connect.awaitsKey : Connect → Bool
  | .reissuing _ (.issuing .reissue) => true
  | _ => false

/-- A call has begun to replace the key, and waits for the new one. -/
def Task.awaitsKey : Task → Bool
  | .connect c | .run (.connecting c) => c.awaitsKey
  | _ => false

/-- What a step tells about replacements of the key, given whether it leads to where a new one is
waited for: one if it does, for which it calls the issuer, and none otherwise. -/
structure Replaces (awaits : Bool) (did : List Effect) : Prop where
  told : (replacements did).length = awaits.toNat
  called : awaits = true → .began .issueKey ∈ did

/-- The transports that a call may still open once the client is stopped. -/
def Task.dialsLeft : Task → Nat
  | .connect c | .run (.connecting c) => c.dialsLeft
  | _ => 0

/-- The replacements of the key that a call may still begin once the client is stopped. -/
def Task.reissuesLeft : Task → Nat
  | .connect c | .run (.connecting c) => c.reissuesLeft
  | _ => 0

section

variable {cfg : Config} {shared : Shared} {h : Happening}

/-- A request for a key neither opens a transport nor begins a replacement. -/
lemma quiet_of_approval {stage : Approval.Stage} {r : Reply} {p : Approval.Progress}
    {did : List Effect} (st : Approval.Step stage r p did) :
    dialed did = [] ∧ replacements did = [] := by
  cases st <;> exact ⟨rfl, rfl⟩

/-- An attempt that subscribes opens no more transports. -/
lemma Attempt.subscribe_dialsLeft {key : ApprovalKey} {t : TransportId} {codec : Codec}
    {effects : List Effect} {rest : List Subscription} :
    (subscribe shared key t codec effects rest).progress.dialsLeft = 0 := by
  cases rest <;> rfl

/-- An attempt opens what it may open, and begins no replacement. -/
lemma Attempt.Step.spends {a : Attempt} {o : Attempt.Outcome} (st : Attempt.Step cfg shared a h o) :
    (dialed o.effects).length + o.progress.dialsLeft ≤ a.dialsLeft ∧
      replacements o.effects = [] := by
  cases st with
  | obtaining st | unobtained st =>
    obtain ⟨undialed, unreissued⟩ := quiet_of_approval st
    rw [undialed]
    exact ⟨by simp [dialsLeft, Progress.dialsLeft], unreissued⟩
  | obtained st =>
    obtain ⟨undialed, unreissued⟩ := quiet_of_approval st
    rw [dialed_append, replacements_append, undialed, unreissued]
    exact ⟨le_rfl, rfl⟩
  | opened =>
    rw [subscribe_dialsLeft, dialed, replacements, filterMap_subscribe fun _ _ => rfl,
      filterMap_subscribe fun _ _ => rfl]
    refine ⟨?_, replacements_setState _ _⟩
    rw [List.filterMap_cons_none rfl, ← dialed, dialed_setState]
    exact le_rfl
  | accepted =>
    rw [subscribe_dialsLeft, dialed, replacements, filterMap_subscribe fun _ _ => rfl,
      filterMap_subscribe fun _ _ => rfl]
    exact ⟨le_rfl, rfl⟩
  | abandoned =>
    rw [dialed_closeNotices, replacements_closeNotices]
    exact ⟨le_rfl, rfl⟩
  | _ => exact ⟨le_rfl, rfl⟩

/-- A failed attempt opens nothing more, and begins at most one replacement. -/
lemma Connect.failed_spends (cfg : Config) (shared : Shared) (retry : Retry) (cause : ClientError)
    (effects : List Effect) :
    (dialed (failed cfg shared retry cause effects).effects = dialed effects ∧
        (failed cfg shared retry cause effects).next.dialsLeft = 0) ∧
      (replacements (failed cfg shared retry cause effects).effects).length +
        (failed cfg shared retry cause effects).next.reissuesLeft ≤
          (replacements effects).length + 1 := by
  have dialed_eq : dialed (failed cfg shared retry cause effects).effects = dialed effects :=
    filterMap_failed (fun _ => rfl) (fun _ => rfl) (fun _ => rfl) rfl
  obtain ⟨rejection, -, e⟩ | ⟨-, e⟩ := failed_cases cfg shared retry cause effects
  · refine ⟨⟨dialed_eq, by rw [e]; rfl⟩, ?_⟩
    rw [e]
    simp only [replacements_append, replacements_setState, List.length_append]
    exact le_rfl
  · refine ⟨⟨dialed_eq, by rw [e]; rfl⟩, ?_⟩
    rw [e]
    simp only [replacements_append, replacements_setState, List.length_append]
    exact Nat.le_succ _

/-- Once the client is stopped, a call that connects opens and begins no more than it may. -/
lemma Connect.Step.spends {c : Connect} {o : Connect.Outcome} (st : Connect.Step cfg shared c h o)
    (stopped : shared.stopped = true) :
    (dialed o.effects).length + o.next.dialsLeft ≤ c.dialsLeft ∧
      (replacements o.effects).length + o.next.reissuesLeft ≤ c.reissuesLeft := by
  cases st with
  | cleared free => cases stopped.symm.trans free
  | announced =>
    rw [dialed_append, replacements_append, dialed_setState, replacements_setState]
    exact ⟨le_rfl, le_rfl⟩
  | launched =>
    rename_i retry carried
    cases carried <;> exact ⟨le_rfl, le_rfl⟩
  | attempting st =>
    obtain ⟨dials, unreplaced⟩ := st.spends
    rw [unreplaced]
    exact ⟨dials, le_rfl⟩
  | succeeded st =>
    obtain ⟨dials, unreplaced⟩ := st.spends
    rw [unreplaced]
    exact ⟨dials, Nat.zero_le _⟩
  | @failed retry a h shared' cause effects st =>
    obtain ⟨dials, unreplaced⟩ := st.spends
    obtain ⟨⟨same, spent⟩, reissues⟩ :=
      failed_spends cfg shared' retry cause effects
    rw [unreplaced] at reissues
    rw [same, spent]
    exact ⟨dials, reissues⟩
  | reissuing st | reissued st =>
    rw [(quiet_of_approval st).1, (quiet_of_approval st).2]
    exact ⟨le_rfl, le_rfl⟩
  | unreissued st =>
    rw [dialed_append, replacements_append, (quiet_of_approval st).1, (quiet_of_approval st).2]
    exact ⟨le_rfl, le_rfl⟩
  | published =>
    rw [dialed_append, replacements_append, dialed_setState, replacements_setState]
    exact ⟨le_rfl, le_rfl⟩
  | replaced | discarded =>
    rw [dialed_closeNotices, replacements_closeNotices]
    exact ⟨le_rfl, le_rfl⟩
  | _ => exact ⟨Nat.zero_le _, Nat.zero_le _⟩

/-- A call that listens opens no transport and replaces no key. -/
lemma Listen.Step.spends_nothing {l : Listen} {o : Listen.Outcome}
    (st : Listen.Step cfg shared l h o) :
    dialed o.effects = [] ∧ replacements o.effects = [] := by
  cases st with
  | closed =>
    rw [dialed, replacements, filterMap_conclude (fun _ _ => rfl) (fun _ => rfl) fun _ => rfl,
      filterMap_conclude (fun _ _ => rfl) (fun _ => rfl) fun _ => rfl]
    exact ⟨dialed_closeNotices _, replacements_closeNotices _⟩
  | closedLate =>
    rw [dialed, replacements, filterMap_conclude (fun _ _ => rfl) (fun _ => rfl) fun _ => rfl,
      filterMap_conclude (fun _ _ => rfl) (fun _ => rfl) fun _ => rfl]
    exact ⟨rfl, rfl⟩
  | _ => exact ⟨rfl, rfl⟩

/-- A call that stops the client opens no transport and replaces no key. -/
lemma Stop.Step.spends_nothing {s : Stop} {o : Stop.Outcome} (st : Stop.Step cfg shared s h o) :
    dialed o.effects = [] ∧ replacements o.effects = [] := by
  cases st with
  | published =>
    obtain e | e := shared.shutDown_cases
    · rw [e]
      exact ⟨rfl, rfl⟩
    · rw [e]
      exact ⟨rfl, rfl⟩
  | closed =>
    rw [dialed_append, replacements_append, dialed_closeNotices, replacements_closeNotices]
    exact ⟨rfl, rfl⟩
  | _ => exact ⟨rfl, rfl⟩

/-- A call that turns from connecting to listening may do no more than before. -/
lemma Task.left_afterConnect (c : Connect) :
    (Task.run (Run.afterConnect c)).dialsLeft ≤ c.dialsLeft ∧
      (Task.run (Run.afterConnect c)).reissuesLeft ≤ c.reissuesLeft := by
  unfold Run.afterConnect
  split
  · exact ⟨Nat.zero_le _, Nat.zero_le _⟩
  · exact ⟨Nat.zero_le _, Nat.zero_le _⟩
  · exact ⟨Nat.zero_le _, Nat.zero_le _⟩
  · exact ⟨le_rfl, le_rfl⟩

/-- A call that listens may open no transport and replace no key. -/
lemma Task.left_afterListen (l : Listen) :
    (Task.run (Run.afterListen l)).dialsLeft = 0 ∧
      (Task.run (Run.afterListen l)).reissuesLeft = 0 := by
  unfold Run.afterListen
  split <;> exact ⟨rfl, rfl⟩

/-- Once the client is stopped, a call opens and replaces no more than it may. -/
lemma Task.Step.spends {t : Task} {o : Task.Outcome} (st : Task.Step cfg shared t h o)
    (stopped : shared.stopped = true) :
    (dialed o.effects).length + o.next.dialsLeft ≤ t.dialsLeft ∧
      (replacements o.effects).length + o.next.reissuesLeft ≤ t.reissuesLeft := by
  cases st with
  | connect st => exact st.spends stopped
  | listen st =>
    rw [st.spends_nothing.1, st.spends_nothing.2]
    exact ⟨le_rfl, le_rfl⟩
  | run st =>
    cases st with
    | @connecting c h o st =>
      obtain ⟨dials, reissues⟩ := st.spends stopped
      obtain ⟨dials', reissues'⟩ := left_afterConnect o.next
      exact ⟨(Nat.add_le_add_left dials' _).trans dials,
        (Nat.add_le_add_left reissues' _).trans reissues⟩
    | @listening l h o st =>
      have undialed : dialed (Run.listenEffects o.next) = [] := Run.filterMap_listenEffects rfl
      have unreplaced : replacements (Run.listenEffects o.next) = [] :=
        Run.filterMap_listenEffects rfl
      rw [dialed_append, replacements_append, st.spends_nothing.1, st.spends_nothing.2, undialed,
        unreplaced, (left_afterListen o.next).1, (left_afterListen o.next).2]
      exact ⟨le_rfl, le_rfl⟩
    | stopped => exact ⟨le_rfl, le_rfl⟩
    | restarted free => cases stopped.symm.trans free
  | stop st =>
    rw [st.spends_nothing.1, st.spends_nothing.2]
    exact ⟨le_rfl, le_rfl⟩

/-- In the course of a call on a stopped client no more is opened and replaced than may be. -/
lemma Task.spends_of_course {t t' : Task} {ds : List (Deed Task)}
    (run : Course (Task.Valid cfg) t ds t') (stopped : ∀ d ∈ ds, d.found.stopped = true) :
    (dialed (seen ds)).length + t'.dialsLeft ≤ t.dialsLeft ∧
      (replacements (seen ds)).length + t'.reissuesLeft ≤ t.reissuesLeft := by
  induction run with
  | refl => exact ⟨by simp [dialed], by simp [replacements]⟩
  | @tail ds d _ valid ih =>
    obtain ⟨dials, reissues⟩ := ih fun d mem => stopped d (List.mem_append_left _ mem)
    obtain ⟨dials', reissues'⟩ := (Task.Valid.step valid).spends (stopped d (by simp))
    simp only [seen_append, seen_cons, seen_nil, List.append_nil, dialed_append,
      replacements_append, List.length_append] at dials' reissues' ⊢
    omega

/-- A step that tells of no replacement fits any place where no new key is waited for. -/
lemma Replaces.of_none {did : List Effect} (none : replacements did = []) : Replaces false did := by
  refine ⟨?_, nofun⟩
  rw [none]
  rfl

/-- A failed attempt tells of a replacement exactly when it begins one. -/
lemma Connect.failed_replaces {retry : Retry} {cause : ClientError} {effects : List Effect}
    (none : replacements effects = []) :
    Replaces (failed cfg shared retry cause effects).next.awaitsKey
      (failed cfg shared retry cause effects).effects := by
  obtain ⟨rejection, -, e⟩ | ⟨-, e⟩ := failed_cases cfg shared retry cause effects
  · rw [e]
    refine ⟨?_, fun _ => by simp⟩
    simp only [replacements_append, replacements_setState, none, List.nil_append]
    rfl
  · rw [e]
    refine .of_none ?_
    simp only [replacements_append, replacements_setState, none, List.nil_append]
    rfl

/-- A step of a call that connects tells of a replacement exactly when it begins one. -/
lemma Connect.Step.replaces {c : Connect} {o : Connect.Outcome}
    (st : Connect.Step cfg shared c h o) : Replaces o.next.awaitsKey o.effects := by
  cases st with
  | announced =>
    refine .of_none ?_
    rw [replacements_append, replacements_setState]
    rfl
  | @launched retry carried => cases carried <;> exact .of_none rfl
  | attempting st => exact .of_none st.spends.2
  | succeeded st => exact .of_none st.spends.2
  | failed st => exact failed_replaces st.spends.2
  | reissuing st =>
    -- no request for a key comes to where it begins
    cases st <;> exact .of_none rfl
  | reissued st => exact .of_none (quiet_of_approval st).2
  | unreissued st =>
    refine .of_none ?_
    rw [replacements_append, (quiet_of_approval st).2]
    rfl
  | published =>
    refine .of_none ?_
    rw [replacements_append, replacements_setState]
    rfl
  | replaced | discarded => exact .of_none (replacements_closeNotices _)
  | _ => exact .of_none rfl

/-- A call that turns from connecting to listening waits for a new key only if it is connecting
still. -/
lemma Task.awaitsKey_afterConnect (c : Connect) :
    (Task.run (Run.afterConnect c)).awaitsKey = c.awaitsKey := by
  unfold Run.afterConnect
  split <;> rfl

/-- A call that listens waits for no key. -/
lemma Task.awaitsKey_afterListen (l : Listen) :
    (Task.run (Run.afterListen l)).awaitsKey = false := by
  unfold Run.afterListen
  split <;> rfl

/-- A step of a call tells of a replacement exactly when it begins one. -/
lemma Task.Step.replaces {t : Task} {o : Task.Outcome} (st : Task.Step cfg shared t h o) :
    Replaces o.next.awaitsKey o.effects := by
  cases st with
  | connect st => exact st.replaces
  | listen st => exact .of_none st.spends_nothing.2
  | run st =>
    cases st with
    | @connecting c h o st =>
      rw [awaitsKey_afterConnect]
      exact st.replaces
    | @listening l h o st =>
      rw [awaitsKey_afterListen]
      refine .of_none ?_
      rw [replacements_append, st.spends_nothing.2]
      exact Run.filterMap_listenEffects rfl
    | stopped => exact .of_none rfl
    | restarted free => exact .of_none rfl
  | stop st => exact .of_none st.spends_nothing.2

/-- A call tells of as many replacements of the key as it begins, and calls the issuer at the
beginning of each. -/
theorem Task.replacements_of_course {t t' : Task} {ds : List (Deed Task)}
    (run : Course (Task.Valid cfg) t ds t') :
    (replacements (seen ds)).length = ds.countP (·.goes.awaitsKey) ∧
      ∀ d ∈ ds, d.goes.awaitsKey = true → .began .issueKey ∈ d.did := by
  induction run with
  | refl => exact ⟨rfl, fun d mem => absurd mem List.not_mem_nil⟩
  | @tail ds d _ valid ih =>
    obtain ⟨count, calls⟩ := ih
    obtain ⟨told, called⟩ := (Task.Valid.step valid).replaces
    constructor
    · rw [seen_append, seen_cons, seen_nil, List.append_nil, replacements_append,
        List.length_append, count, told, List.countP_append, List.countP_singleton]
      cases d.goes.awaitsKey <;> rfl
    · intro x mem awaits
      obtain before | last := List.mem_append.1 mem
      · exact calls x before awaits
      · cases List.mem_singleton.1 last
        exact called awaits

/-- A call that connects may open one transport and begin one replacement at most. -/
lemma Connect.left_le_one (c : Connect) : c.dialsLeft ≤ 1 ∧ c.reissuesLeft ≤ 1 := by
  cases c with
  | announcing | launching => exact ⟨le_rfl, le_rfl⟩
  | attempting retry a =>
    refine ⟨?_, le_rfl⟩
    cases a with
    | credential => exact le_rfl
    | _ => exact Nat.zero_le _
  | _ => exact ⟨Nat.zero_le _, Nat.zero_le _⟩

/-- A call may open one transport and begin one replacement at most. -/
lemma Task.left_le_one (t : Task) : t.dialsLeft ≤ 1 ∧ t.reissuesLeft ≤ 1 := by
  cases t with
  | connect c => exact c.left_le_one
  | run r =>
    cases r with
    | connecting c => exact c.left_le_one
    | _ => exact ⟨Nat.zero_le _, Nat.zero_le _⟩
  | _ => exact ⟨Nat.zero_le _, Nat.zero_le _⟩

/-- A call that was just made on a stopped client may do neither. -/
lemma Task.Fresh.left_eq_zero {t : Task} (fresh : Task.Fresh cfg t) :
    t.dialsLeft = 0 ∧ t.reissuesLeft = 0 := by
  cases fresh <;> exact ⟨rfl, rfl⟩

end

/-- What is in a list stays there when something is replaced, unless it is replaced itself. -/
lemma mem_set_or_eq {α : Type} {x y z : α} {xs : List α} {i : Nat} (at_i : xs[i]? = some x)
    (mem : z ∈ xs) : z ∈ xs.set i y ∨ z = x := by
  obtain ⟨k, at_k⟩ := List.mem_iff_getElem?.1 mem
  by_cases same : i = k
  · subst same
    exact .inr (Option.some_inj.1 (at_k.symm.trans at_i))
  · refine .inl (List.mem_iff_getElem?.2 ⟨k, ?_⟩)
    rw [List.getElem?_set_ne same, at_k]

namespace System

/-- Every call that stops the client has signalled so before it takes the parked session, and from
then on the slot is empty unless some call is about to empty it. -/
structure Cleared (sys : System) : Prop where
  signalled : ∀ s, Task.stop s ∈ sys.tasks → s.HasSignalled → sys.shared.stopped = true
  empty : ∀ s, Task.stop s ∈ sys.tasks → s.HasTaken →
    sys.shared.slot = none ∨ ∃ t ∈ sys.tasks, t.Clears

variable {cfg : Config} {a b sys mid : System} {ms pre : List Move}

/-- The signal to stop is not taken back. -/
lemma Trace.stopped (run : Trace cfg a ms b) (stopped : a.shared.stopped = true) :
    b.shared.stopped = true := by
  induction run with
  | refl => exact stopped
  | call _ _ ih => exact ih
  | act _ _ found valid ih => exact valid.step.stopped (found ▸ ih)

/-- A call that took the parked session signalled so before. -/
lemma hasSignalled_of_hasTaken {s : Stop} (taken : s.HasTaken) : s.HasSignalled := by
  cases s with
  | signalling => exact taken.elim
  | _ => trivial

/-- A call that stops the client comes from one that does. -/
lemma stop_of_step {shared left : Shared} {t : Task} {h : Happening} {s : Stop}
    {did : List Effect} (st : Task.Step cfg shared t h ⟨left, .stop s, did⟩) :
    ∃ s', t = .stop s' ∧ Stop.Step cfg shared s' h ⟨left, s, did⟩ := by
  cases st with
  | stop st => exact ⟨_, rfl, st⟩

/-- A call that is made leaves the slot as it is, and has neither signalled nor taken anything. -/
lemma Cleared.call {t : Task} (cleared : sys.Cleared) (fresh : Task.Fresh cfg t) :
    Cleared ⟨sys.shared, sys.tasks ++ [t]⟩ := by
  have old : ∀ s, Task.stop s ∈ sys.tasks ++ [t] → s.HasSignalled → Task.stop s ∈ sys.tasks := by
    intro s mem signalled
    obtain mem | new := List.mem_append.1 mem
    · exact mem
    · cases List.mem_singleton.1 new
      cases fresh
      exact signalled.elim
  constructor
  · intro s mem signalled
    exact cleared.signalled s (old s mem signalled) signalled
  · intro s mem taken
    obtain empty | ⟨t', mem', clears⟩ :=
      cleared.empty s (old s mem (hasSignalled_of_hasTaken taken)) taken
    · exact .inl empty
    · exact .inr ⟨t', List.mem_append_left _ mem', clears⟩

section

variable {i : Nat} {d : Deed Task} {s : Stop}

/-- After some call took the session, a move of any call leaves the slot empty, or some call about
to empty it. -/
lemma Cleared.kept (cleared : sys.Cleared) (at_i : sys.tasks[i]? = some d.stood)
    (found : d.found = sys.shared) (valid : Task.Valid cfg d) (mem : Task.stop s ∈ sys.tasks)
    (taken : s.HasTaken) : d.left.slot = none ∨ ∃ t ∈ sys.tasks.set i d.goes, t.Clears := by
  have stopped := cleared.signalled s mem (hasSignalled_of_hasTaken taken)
  have mem_next : d.goes ∈ sys.tasks.set i d.goes :=
    List.mem_set (List.getElem?_eq_some_iff.1 at_i).1 d.goes
  obtain empty | ⟨same, keeps⟩ | clears := valid.step.clearing (found ▸ stopped)
  · exact .inl empty
  -- the slot is left alone, so it is as empty as before or as good as emptied by the same call
  · obtain empty | ⟨t, mem', clears⟩ := cleared.empty s mem taken
    · exact .inl (same.trans (found ▸ empty))
    · obtain there | rfl := mem_set_or_eq at_i mem'
      · exact .inr ⟨t, there, clears⟩
      · exact .inr ⟨d.goes, mem_next, keeps clears⟩
  · exact .inr ⟨d.goes, mem_next, clears⟩

/-- A move of any call keeps to the order of signalling, taking and emptying. -/
lemma Cleared.act (cleared : sys.Cleared) (at_i : sys.tasks[i]? = some d.stood)
    (found : d.found = sys.shared) (valid : Task.Valid cfg d) :
    Cleared ⟨d.left, sys.tasks.set i d.goes⟩ := by
  have mem_d : d.stood ∈ sys.tasks := List.mem_iff_getElem?.2 ⟨i, at_i⟩
  constructor
  · intro s mem signalled
    obtain before | new := List.mem_or_eq_of_mem_set mem
    · exact valid.step.stopped (found ▸ cleared.signalled s before signalled)
    · have st := valid.step
      rw [← new] at st
      obtain ⟨s', stood, st'⟩ := stop_of_step st
      obtain before | stopped := st'.hasSignalled
      · exact valid.step.stopped (found ▸ cleared.signalled s' (stood ▸ mem_d) before)
      · exact stopped
  · intro s mem taken
    -- either the call took the session before, or it is the one that moves and has just taken it
    obtain before | new := List.mem_or_eq_of_mem_set mem
    · exact cleared.kept at_i found valid before taken
    · have st := valid.step
      rw [← new] at st
      obtain ⟨s', stood, st'⟩ := stop_of_step st
      obtain before | empty := st'.hasTaken taken
      · exact cleared.kept at_i found valid (stood ▸ mem_d) before
      · exact .inl empty

end

/-- In every run the slot is empty after it was taken, unless some call is about to empty it. -/
lemma Trace.cleared (run : Trace cfg initial ms sys) : sys.Cleared := by
  induction run with
  | refl => exact ⟨nofun, nofun⟩
  | call _ fresh ih => exact ih.call fresh
  | act _ at_i found valid ih => exact ih.act at_i found valid

/-- On a stopped client every call finds the signal to stop. -/
lemma Trace.found_stopped (run : Trace cfg a ms b) (stopped : a.shared.stopped = true) (i : Nat) :
    ∀ d ∈ deedsOf i ms, d.found.stopped = true := by
  induction run with
  | refl => exact fun d mem => absurd mem List.not_mem_nil
  | call _ _ ih => exact ih
  | @act b ms j d run _ found _ ih =>
    intro x mem
    rw [deedsOf_concat] at mem
    split at mem
    · obtain before | last := List.mem_append.1 mem
      · exact ih x before
      · cases List.mem_singleton.1 last
        exact found ▸ run.stopped stopped
    · exact ih x mem

/-- A call that is made on a stopped client is settled. -/
lemma Trace.settled_of_later (run : Trace cfg a ms b) (stopped : a.shared.stopped = true) {i : Nat}
    {t : Task} (later : a.tasks.length ≤ i) (at_i : b.tasks[i]? = some t) : t.Settled := by
  obtain ⟨t₀, here | ⟨-, fresh⟩, course⟩ := run.course_to at_i
  · exact absurd (List.getElem?_eq_some_iff.1 here).1 (Nat.not_lt.2 later)
  · refine course.preserves ?_ fresh.settled
    intro d mem valid settled
    exact ((Task.Valid.step valid).settled (run.found_stopped stopped i d mem) settled).1

/-- The slot of a stopped client stays empty when all its calls are settled. -/
lemma Trace.slot_of_settled (run : Trace cfg a ms b) (stopped : a.shared.stopped = true)
    (settled : ∀ t ∈ a.tasks, t.Settled) (empty : a.shared.slot = none) :
    b.shared.slot = none ∧ ∀ t ∈ b.tasks, t.Settled := by
  induction run with
  | refl => exact ⟨empty, settled⟩
  | call _ fresh ih =>
    refine ⟨ih.1, ?_⟩
    intro t mem
    obtain before | new := List.mem_append.1 mem
    · exact ih.2 t before
    · cases List.mem_singleton.1 new
      exact fresh.settled
  | @act b ms i d run at_i found valid ih =>
    have stood : d.stood.Settled := ih.2 _ (List.mem_iff_getElem?.2 ⟨i, at_i⟩)
    obtain ⟨next, slot⟩ := valid.step.settled (found ▸ run.stopped stopped) stood
    constructor
    · obtain same | none := slot
      · exact same.trans (found ▸ ih.1)
      · exact none
    · intro t mem
      obtain before | rfl := List.mem_or_eq_of_mem_set mem
      · exact ih.2 t before
      · exact next

/-- On a stopped client a call in progress opens one more transport and begins one more replacement
of the key at most, and a call that is made later does neither. -/
lemma Trace.spends (run : Trace cfg a ms b) (stopped : a.shared.stopped = true) (i : Nat) :
    (dialed (seen (deedsOf i ms))).length ≤ (if i < a.tasks.length then 1 else 0) ∧
      (replacements (seen (deedsOf i ms))).length ≤ (if i < a.tasks.length then 1 else 0) := by
  cases at_i : b.tasks[i]? with
  | none =>
    rw [run.deedsOf_eq_nil (List.getElem?_eq_none_iff.1 at_i)]
    exact ⟨Nat.zero_le _, Nat.zero_le _⟩
  | some t =>
    obtain ⟨t₀, start, course⟩ := run.course_to at_i
    obtain ⟨dials, reissues⟩ := Task.spends_of_course course (run.found_stopped stopped i)
    obtain here | ⟨later, fresh⟩ := start
    · rw [if_pos (List.getElem?_eq_some_iff.1 here).1]
      have := t₀.left_le_one
      omega
    · rw [if_neg (Nat.not_lt.2 later)]
      have := fresh.left_eq_zero
      omega

/-- Once the client is stopped, each call in progress opens at most one more transport and begins at
most one more replacement of the key, and calls that are made later do neither. Once a call that
stops the client has returned and the calls that were in progress are connecting no more, the slot
is empty, and it stays so whatever is called from then on. -/
theorem spends_and_empties_of_stopped {cfg : Config} {pre ms : List Move} {mid sys : System}
    (before : Trace cfg initial pre mid) (stopped : mid.shared.stopped = true)
    (run : Trace cfg mid ms sys) :
    (∀ i, (dialed (seen (deedsOf i ms))).length ≤ (if i < mid.tasks.length then 1 else 0) ∧
        (replacements (seen (deedsOf i ms))).length ≤ (if i < mid.tasks.length then 1 else 0)) ∧
      (Task.stop .finished ∈ sys.tasks →
        (∀ i t, i < mid.tasks.length → sys.tasks[i]? = some t → ¬t.Connecting) →
        ∀ ms' sys', Trace cfg sys ms' sys' → sys'.shared.slot = none) := by
  refine ⟨run.spends stopped, ?_⟩
  intro returned ended ms' sys' later
  -- calls in progress are settled once they connect no more, later ones from the beginning
  have settled : ∀ t ∈ sys.tasks, t.Settled := by
    intro t mem
    obtain ⟨i, at_i⟩ := List.mem_iff_getElem?.1 mem
    obtain lt | le := Nat.lt_or_ge i mid.tasks.length
    · exact Task.settled_of_not_connecting (ended i t lt at_i)
    · exact run.settled_of_later stopped le at_i
  have empty : sys.shared.slot = none := by
    obtain empty | ⟨t, mem, clears⟩ := (before.append run).cleared.empty .finished returned trivial
    · exact empty
    · exact absurd clears (Task.not_clears_of_settled (settled t mem))
  exact (later.slot_of_settled (run.stopped stopped) settled empty).1

/-- A client that is stopped while a call is about to begin its first attempt. -/
def sampleStopped : List Move × System :=
  play (Config.of "ws://feed" []) initial
    [.connect, .stop, .meet 0 .proceed, .meet 1 .proceed]

/-- The client of the sample from then on: the attempt succeeds and its session is parked after the
call that stops the client found nothing to close. -/
def sampleShutdown : List Move × System :=
  play (Config.of "ws://feed" []) sampleStopped.2
    [.meet 0 .proceed, .meet 0 .proceed, .meet 0 (.reply (.cacheRead (.ok (some "key"))) ⟨0⟩),
      .meet 1 .proceed, .meet 1 .proceed, .meet 0 (.reply (.opened (.ok ())) ⟨1⟩), .meet 0 .proceed,
      .meet 1 (.reply .cacheReleased ⟨2⟩), .meet 0 .proceed, .meet 0 .proceed,
      .meet 0 (.reply (.closed (.ok ())) ⟨3⟩)]

/-- The call of the sample takes its session back, and the slot is empty for good. -/
theorem sampleShutdown_empty :
    sampleStopped.2.shared.stopped = true ∧ Task.stop .finished ∈ sampleShutdown.2.tasks ∧
      (dialed (seen (deedsOf 0 sampleShutdown.1))).length = 1 ∧
      sampleShutdown.2.shared.slot = none := by
  have before : Trace (Config.of "ws://feed" []) initial sampleStopped.1 sampleStopped.2 :=
    .of_play _ _ _
  have run : Trace (Config.of "ws://feed" []) sampleStopped.2 sampleShutdown.1 sampleShutdown.2 :=
    .of_play _ _ _
  have tasks : sampleShutdown.2.tasks =
      [.connect (.finished (.error .stopped)), .stop .finished] := by rfl
  have returned : Task.stop .finished ∈ sampleShutdown.2.tasks := by simp [tasks]
  have ended : ∀ i t, i < sampleStopped.2.tasks.length → sampleShutdown.2.tasks[i]? = some t →
      ¬t.Connecting := by
    intro i t _ at_i
    rw [tasks] at at_i
    match i with
    | 0 => cases at_i; exact id
    | 1 => cases at_i; exact id
    | i + 2 => cases at_i
  obtain ⟨-, final⟩ := spends_and_empties_of_stopped before (by rfl) run
  exact ⟨by rfl, returned, by rfl, final returned ended _ _ (.refl _)⟩

end System

end Client

end FillFeed
