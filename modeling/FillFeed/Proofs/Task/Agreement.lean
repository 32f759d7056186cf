import Mathlib
import FillFeed.Proofs.Task.Shutdown
import FillFeed.Proofs.Task.States

/-!
# State and session after calls in turn

The calls that connect, listen and stop a client may be made one after another (`System.InTurn`).
What such a call leaves depends on what it found: a call that connects parks a session or leaves the
slot as it was, a call that listens empties it, and a call that stops the client empties it for good
(`Task.Past`). `retries` counts the calls that failed to connect since the session was parked that
is still in the slot, and determines the slot and the state (`System.InTurn.tallied`).

So the state is `connected` and a session is parked at the same time, unless a call that parked its
session was followed by calls that failed to connect: these set the state to `disconnected` and
leave the session in the slot (`System.parked_but_unconnected_iff`).
-/

namespace FillFeed.Client

/-- A client whose calls to connect, to listen and to stop were made one after another, each when
the one before had returned. -/
inductive System.InTurn (cfg : Config) : System → Prop where
  | nothing : InTurn cfg initial
  | call {a b : System} {t : Task} {ms : List Move} (before : InTurn cfg a)
      (fresh : Task.Fresh cfg t) (norun : ∀ r, t ≠ .run r) (run : Trace cfg (a.add t) ms b)
      (single : b.tasks.length = a.tasks.length + 1)
      (returned : ∀ t ∈ b.tasks, t.isFinished = true) : InTurn cfg b

/-- A call that has connected. -/
def connects : Task := .connect (.finished (.ok ()))

/-- A call that has failed to connect. -/
def FailsToConnect (t : Task) : Prop := ∃ e, t = .connect (.finished (.error e))

/-- Counts the calls that failed to connect since a session was parked, if one is. -/
def tally : Option Nat → Task → Option Nat
  | _, .connect (.finished (.ok ())) => some 0
  | n, .connect (.finished (.error _)) => n.map (· + 1)
  | _, _ => none

/-- The number of calls that failed to connect since the session was parked that is still in the
slot. -/
def retries (ts : List Task) : Option Nat := ts.foldl tally none

/-- What the client is left with by a number of calls that failed to connect since its session was
parked. -/
structure Tallied (n : Option Nat) (shared : Shared) : Prop where
  slot : shared.hasSession = n.isSome
  free : shared.stopped = false →
    shared.state = if n = some 0 then .connected else .disconnected
  shut : shared.stopped = true → shared.state = .shuttingDown ∧ n = none

/-- What a call that connects has done to what it found: nothing on a client that was stopped, and
otherwise what it should. -/
def Connect.Past (cfg : Config) (found shared : Shared) (c : Connect) : Prop :=
  (shared = found ∧ found.stopped = true ∧ (c = start cfg ∨ c = halted)) ∨
    (shared.stopped = false ∧ shared.state.isTerminal = false ∧
      ∃ log, Leaves found.slot log shared c)

/-- What a call that listens has done to what it found. -/
def Listen.Past (found shared : Shared) : Listen → Prop
  | .taking => shared = found
  | .starting _ | .polling _ _ | .pinging _ _ | .echoing _ _ | .handling _ _ _ =>
    shared = { found with slot := none } ∧ found.slot.isSome
  | .closing _ result =>
    shared = { found with slot := none } ∧ found.slot.isSome ∧
      (result = .ok () → found.stopped = true)
  | .crashed _ => True
  | .finished (.ok ()) => shared = { found with slot := none } ∧ found.stopped = true
  | .finished (.error _) =>
    (shared = { found with slot := none } ∧ found.slot = none) ∨
      (shared = (Shared.setState { found with slot := none } .disconnected).1 ∧ found.slot.isSome)

/-- What a call that stops the client has done. -/
def Stop.Past (shared : Shared) : Stop → Prop
  | .signalling => True
  | .publishing => shared.stopped = true
  | .taking => shared.stopped = true ∧ shared.state = .shuttingDown
  | .closing _ | .releasing | .finished =>
    shared.stopped = true ∧ shared.state = .shuttingDown ∧ shared.slot = none

/-- What a call has done to what it found. -/
def Task.Past (cfg : Config) (found shared : Shared) : Task → Prop
  | .connect c => c.Past cfg found shared
  | .listen l => l.Past found shared
  | .run _ => False
  | .stop s => s.Past shared

section

variable {cfg : Config} {found left shared : Shared} {h : Happening} {σ : Type}
  {kind : Deed σ → Prop} {a b : σ} {ds : List (Deed σ)}

/-- What every deed preserves of what is shared and of the place, an undisturbed course
preserves. -/
lemma Course.settles {P : Shared → σ → Prop} (run : Course kind a ds b)
    (alone : Undisturbed found ds left)
    (keeps : ∀ d, kind d → P d.found d.stood → P d.left d.goes) (start : P found a) :
    P left b := by
  induction run generalizing left with
  | refl =>
    cases alone.eq_of_nil
    exact start
  | tail _ deed ih =>
    obtain ⟨before, rfl⟩ := alone.of_concat
    exact keeps _ deed (ih before)

/-- The state that goes with a place of a call that connects is not that of a client that shuts
down. -/
lemma Connect.not_terminal {c : Connect} {x : ConnectionState} (has : c.state? = some x) :
    x.isTerminal = false := by
  cases c with
  | attempting _ a =>
    cases has
    cases a <;> rfl
  | finished result =>
    cases result with
    | ok => cases has; rfl
    | error => cases has
  | _ => cases has; rfl

/-- A call that connects does not shut the client down. -/
lemma Connect.Step.alive {c : Connect} {o : Connect.Outcome} (st : Connect.Step cfg shared c h o)
    (alive : shared.state.isTerminal = false) : o.shared.state.isTerminal = false := by
  obtain ⟨steady, -⟩ | ⟨_, x, -, goes, -, -, sets⟩ := st.state_cases
  · rw [steady.same]
    exact alive
  · rw [sets.state, Shared.setState_state alive]
    exact Connect.not_terminal goes

/-- What a call that connects has done stays right with each of its steps. -/
lemma Connect.Step.past {c : Connect} {o : Connect.Outcome} (st : Connect.Step cfg shared c h o)
    (past : c.Past cfg found shared) : o.next.Past cfg found o.shared := by
  obtain ⟨rfl, stopped, rfl | rfl⟩ | ⟨free, alive, log, leaves⟩ := past
  · cases st with
    | halted => exact .inl ⟨rfl, stopped, .inr rfl⟩
    | cleared free => cases free.symm.trans stopped
  · cases st
  · exact .inr ⟨st.stopped_eq.trans free, st.alive alive, _, st.leaves free alive leaves⟩

/-- What a call that listens has done stays right with each of its steps. -/
lemma Listen.Step.past {l : Listen} {o : Listen.Outcome} (st : Listen.Step cfg shared l h o)
    (past : l.Past found shared) : o.next.Past found o.shared := by
  cases st with
  | unconnected empty =>
    cases past
    exact .inl ⟨rfl, empty⟩
  | took full =>
    cases past
    exact ⟨rfl, by rw [full]; rfl⟩
  | crashed => trivial
  | cancelled stopped =>
    obtain ⟨rfl, full⟩ := past
    exact ⟨rfl, full, fun _ => stopped⟩
  | silent | ended | unreceived | unpinged | unechoed => exact ⟨past.1, past.2, nofun⟩
  | @closed _ result =>
    obtain ⟨rfl, full, stopped⟩ := past
    cases result with
    | ok => exact ⟨rfl, stopped rfl⟩
    | error e => exact .inr ⟨rfl, full⟩
  | @closedLate _ result =>
    obtain ⟨rfl, full, stopped⟩ := past
    cases result with
    | ok => exact ⟨rfl, stopped rfl⟩
    | error e => exact .inr ⟨rfl, full⟩
  | _ => exact past

/-- What a call that stops the client has done stays right with each of its steps. -/
lemma Stop.Step.past {s : Stop} {o : Stop.Outcome} (st : Stop.Step cfg shared s h o)
    (past : s.Past shared) : o.next.Past o.shared := by
  cases st with
  | signalled => exact rfl
  | published =>
    refine ⟨Shared.shutDown_stopped.trans past, ?_⟩
    unfold Shared.shutDown
    split
    · rename_i terminal
      exact beq_iff_eq.1 terminal
    · rfl
  | unparked | took => exact ⟨past.1, past.2, rfl⟩
  | closed | closedLate | released => exact past

/-- What a call has done stays right with each of its steps. -/
lemma Task.Step.past {t : Task} {o : Task.Outcome} (st : Task.Step cfg shared t h o)
    (past : t.Past cfg found shared) : o.next.Past cfg found o.shared := by
  cases st with
  | connect st => exact Connect.Step.past st past
  | listen st => exact Listen.Step.past st past
  | run => exact past.elim
  | stop st => exact Stop.Step.past st past

/-- A client that is not stopped does not shut down. -/
lemma Tallied.alive {n : Option Nat} (tallied : Tallied n shared)
    (free : shared.stopped = false) : shared.state.isTerminal = false := by
  rw [tallied.free free]
  split <;> rfl

/-- What a call that connects leaves behind is as the failures tell. -/
lemma Tallied.of_connect {n : Option Nat} {result : Except ClientError Unit}
    (tallied : Tallied n found) (past : (Connect.finished result).Past cfg found left) :
    Tallied (tally n (.connect (.finished result))) left := by
  obtain ⟨rfl, stopped, e | e⟩ | ⟨free, -, log, leaves⟩ := past
  · cases e
  · -- a client that was stopped has no session and is left alone
    cases e
    obtain ⟨terminal, rfl⟩ := tallied.shut stopped
    refine ⟨tallied.slot, ?_, fun _ => ⟨terminal, rfl⟩⟩
    intro free
    cases free.symm.trans stopped
  · cases result with
    | ok =>
      obtain ⟨s, -, full, connected⟩ := leaves
      refine ⟨?_, fun _ => connected, ?_⟩
      · rw [Shared.hasSession, full]
        rfl
      · intro stopped
        cases free.symm.trans stopped
    | error e =>
      obtain ⟨slot, disconnected⟩ := leaves
      refine ⟨?_, ?_, ?_⟩
      · rw [Shared.hasSession, slot, ← Shared.hasSession, tallied.slot]
        cases n <;> rfl
      · intro _
        cases n <;> exact disconnected
      · intro stopped
        cases free.symm.trans stopped

/-- A call that listens leaves no session behind. -/
lemma Tallied.of_listen {n : Option Nat} {result : Except ClientError Unit}
    (tallied : Tallied n found) (past : (Listen.finished result).Past found left) :
    Tallied none left := by
  -- a session that was listened to was parked on a client that was not stopped
  have free (full : found.slot.isSome) : found.stopped = false := by
    refine Bool.eq_false_iff.2 fun stopped => ?_
    obtain ⟨-, rfl⟩ := tallied.shut stopped
    cases full.symm.trans tallied.slot
  cases result with
  | ok =>
    obtain ⟨rfl, stopped⟩ := past
    refine ⟨rfl, ?_, fun _ => ⟨(tallied.shut stopped).1, rfl⟩⟩
    intro free
    cases free.symm.trans stopped
  | error e =>
    obtain ⟨rfl, empty⟩ | ⟨rfl, full⟩ := past
    · have absent : n.isSome = false := by
        rw [← tallied.slot, Shared.hasSession, empty]
        rfl
      cases n with
      | none => exact ⟨rfl, tallied.free, tallied.shut⟩
      | some => cases absent
    · refine ⟨?_, ?_, ?_⟩
      · rw [Shared.hasSession, Shared.setState_slot]
        rfl
      · intro _
        exact Shared.setState_state (tallied.alive (free full))
      · rw [Shared.setState_stopped]
        intro stopped
        cases (free full).symm.trans stopped

/-- A call that stops the client leaves no session behind. -/
lemma Tallied.of_stop (past : Stop.finished.Past left) : Tallied none left := by
  obtain ⟨stopped, terminal, empty⟩ := past
  refine ⟨?_, ?_, fun _ => ⟨terminal, rfl⟩⟩
  · rw [Shared.hasSession, empty]
    rfl
  · intro free
    cases free.symm.trans stopped

/-- What a call leaves behind is as the failures tell. -/
lemma Tallied.of_finished {n : Option Nat} {t : Task} (tallied : Tallied n found)
    (past : t.Past cfg found left) (finished : t.isFinished = true) : Tallied (tally n t) left := by
  unfold Task.isFinished at finished
  split at finished
  · exact tallied.of_connect past
  · exact tallied.of_listen past
  · exact past.elim
  · exact .of_stop past
  · cases finished

/-- A new call has done nothing yet. -/
lemma Tallied.past {n : Option Nat} {t : Task} (tallied : Tallied n found)
    (fresh : Task.Fresh cfg t) (norun : ∀ r, t ≠ .run r) : t.Past cfg found found := by
  cases fresh with
  | connect =>
    cases free : found.stopped with
    | false => exact .inr ⟨free, tallied.alive free, [], rfl⟩
    | true => exact .inl ⟨rfl, free, .inl rfl⟩
  | listen => exact rfl
  | run => exact absurd rfl (norun _)
  | stop => trivial

/-- A call that takes a step has not returned. -/
lemma Task.Step.unfinished {t : Task} {o : Task.Outcome} (st : Task.Step cfg shared t h o) :
    t.isFinished = false := by
  cases st with
  | connect st => cases st <;> rfl
  | listen st => cases st <;> rfl
  | run st =>
    cases st with
    | connecting | listening | stopped | restarted => rfl
  | stop st => cases st <;> rfl

/-- When all other calls have returned and no further one is made, the last one runs undisturbed. -/
lemma System.Trace.last_course {a b : System} {ms : List Move} {ts : List Task} {t₀ : Task}
    (run : Trace cfg a ms b) (start : a.tasks = ts ++ [t₀])
    (returned : ∀ t ∈ ts, t.isFinished = true) (single : b.tasks.length = ts.length + 1) :
    ∃ t ds, b.tasks = ts ++ [t] ∧ Course (Task.Valid cfg) t₀ ds t ∧
      Undisturbed a.shared ds b.shared := by
  induction run with
  | refl => exact ⟨t₀, [], start, .refl t₀, .refl⟩
  | @call b ms t run _ ih =>
    have kept := run.length_le
    simp only [start, List.length_append, List.length_singleton] at kept single
    omega
  | @act b ms j d run at_j found valid ih =>
    obtain ⟨t, ds, tasks, course, alone⟩ := ih (by simpa using single)
    rw [tasks] at at_j ⊢
    have here : j = ts.length := by
      have lt := (List.getElem?_eq_some_iff.1 at_j).1
      rw [List.length_append, List.length_singleton] at lt
      obtain earlier | last := Nat.lt_succ_iff_lt_or_eq.1 lt
      · rw [List.getElem?_append_left earlier] at at_j
        have ended := returned _ (List.mem_of_getElem? at_j)
        cases ended.symm.trans (Task.Valid.step valid).unfinished
      · exact last
    subst here
    rw [List.getElem?_concat_length] at at_j
    cases at_j
    rw [← found] at alone
    exact ⟨d.goes, ds ++ [d], by simp, course.tail valid, alone.tail⟩

/-- Calls that are made one after another have all returned. -/
lemma System.InTurn.returned {sys : System} (turn : InTurn cfg sys) :
    ∀ t ∈ sys.tasks, t.isFinished = true := by
  cases turn with
  | nothing => exact fun _ mem => absurd mem List.not_mem_nil
  | call _ _ _ _ _ returned => exact returned

/-- The state and the slot of a client are determined by the calls that were made. -/
lemma System.InTurn.tallied {sys : System} (turn : InTurn cfg sys) :
    Tallied (retries sys.tasks) sys.shared := by
  induction turn with
  | nothing => exact ⟨rfl, fun _ => rfl, nofun⟩
  | @call a b t₀ ms before fresh norun run single returned ih =>
    obtain ⟨t, ds, tasks, course, alone⟩ := run.last_course rfl before.returned single
    have past : t.Past cfg a.shared b.shared :=
      course.settles alone (fun _ valid past => (Task.Valid.step valid).past past)
        (ih.past fresh norun)
    have more : retries b.tasks = tally (retries a.tasks) t := by
      rw [tasks]
      exact List.foldl_append ..
    rw [more]
    exact ih.of_finished past (returned t (by simp [tasks]))

/-- A call has connected, or has failed to, or leaves nothing to count. -/
lemma tally_cases (t : Task) :
    t = connects ∨ FailsToConnect t ∨ ∀ n, tally n t = none := by
  cases t with
  | connect c =>
    cases c with
    | finished result =>
      cases result with
      | ok => exact .inl rfl
      | error e => exact .inr (.inl ⟨e, rfl⟩)
    | _ => exact .inr (.inr fun _ => rfl)
  | _ => exact .inr (.inr fun _ => rfl)

/-- A call that fails to connect is counted if there is a session. -/
lemma tally_of_failsToConnect {t : Task} (fails : FailsToConnect t) (n : Option Nat) :
    tally n t = n.map (· + 1) := by
  obtain ⟨e, rfl⟩ := fails
  rfl

/-- A session is parked as long as the call that connected is followed by failures to connect. -/
lemma retries_eq_some_iff {ts : List Task} {n : Nat} :
    retries ts = some n ↔
      ∃ xs ys, ts = xs ++ connects :: ys ∧ ys.length = n ∧ ∀ t ∈ ys, FailsToConnect t := by
  -- the last call decides, so that the list is built up to its end
  induction ts using List.reverseRecOn generalizing n with
  | nil => simp [retries]
  | append_singleton ts t ih =>
    have more : retries (ts ++ [t]) = tally (retries ts) t := List.foldl_append ..
    rw [more]
    constructor
    · intro counted
      obtain rfl | fails | neither := tally_cases t
      · cases counted
        exact ⟨ts, [], rfl, rfl, fun _ mem => absurd mem List.not_mem_nil⟩
      · rw [tally_of_failsToConnect fails] at counted
        obtain ⟨m, before, rfl⟩ := Option.map_eq_some_iff.1 counted
        obtain ⟨xs, ys, rfl, rfl, all⟩ := ih.1 before
        refine ⟨xs, ys ++ [t], by simp, by simp, ?_⟩
        intro t' mem
        obtain earlier | last := List.mem_append.1 mem
        · exact all t' earlier
        · cases List.mem_singleton.1 last
          exact fails
      · cases (neither _).symm.trans counted
    · rintro ⟨xs, ys, split, rfl, all⟩
      obtain rfl | ⟨ys, t', rfl⟩ := ys.eq_nil_or_concat
      · obtain ⟨-, rfl⟩ := List.append_singleton_inj.1 split
        rfl
      · rw [List.concat_eq_append, ← List.cons_append, ← List.append_assoc] at split
        obtain ⟨before, rfl⟩ := List.append_singleton_inj.1 split
        have earlier : ∀ t' ∈ ys, FailsToConnect t' := fun t' mem => all t' (by simp [mem])
        rw [tally_of_failsToConnect (all t (by simp)), ih.2 ⟨xs, ys, before, rfl, earlier⟩]
        simp

/-- There is a session and a failure since then if and only if a call has connected and there were
others after it, all of which failed to connect. -/
lemma exists_retries_eq_succ_iff {ts : List Task} :
    (∃ n, retries ts = some (n + 1)) ↔
      ∃ xs ys, ts = xs ++ connects :: ys ∧ ys ≠ [] ∧ ∀ t ∈ ys, FailsToConnect t := by
  constructor
  · rintro ⟨n, counted⟩
    obtain ⟨xs, ys, split, length, fail⟩ := retries_eq_some_iff.1 counted
    refine ⟨xs, ys, split, ?_, fail⟩
    rintro rfl
    cases length
  · rintro ⟨xs, ys, split, some_failed, fail⟩
    obtain ⟨t, ys, rfl⟩ := List.exists_cons_of_ne_nil some_failed
    exact ⟨ys.length, retries_eq_some_iff.2 ⟨xs, t :: ys, split, rfl, fail⟩⟩

/-- As long as there is a session, the client is connected unless a call has failed to connect since
then. -/
lemma Tallied.state_of_some {n : Nat} (tallied : Tallied (some n) shared) :
    shared.hasSession = true ∧ shared.state = if n = 0 then .connected else .disconnected := by
  refine ⟨tallied.slot, ?_⟩
  cases free : shared.stopped with
  | false =>
    rw [tallied.free free]
    simp
  | true => cases (tallied.shut free).2

/-- Without a session the client is not connected. -/
lemma Tallied.state_of_none (tallied : Tallied none shared) :
    shared.hasSession = false ∧ shared.state ≠ .connected := by
  refine ⟨tallied.slot, ?_⟩
  cases free : shared.stopped with
  | false =>
    rw [tallied.free free]
    exact nofun
  | true =>
    rw [(tallied.shut free).1]
    exact nofun

/-- A client that is connected has a session. -/
lemma Tallied.hasSession_of_connected {n : Option Nat} (tallied : Tallied n shared)
    (connected : shared.state = .connected) : shared.hasSession = true := by
  cases n with
  | none => exact absurd connected tallied.state_of_none.2
  | some n => exact tallied.state_of_some.1

/-- A session is parked on a client that is not connected when calls have failed to connect since
it was parked. -/
lemma Tallied.unconnected_iff {n : Option Nat} (tallied : Tallied n shared) :
    (shared.hasSession = true ∧ shared.state ≠ .connected) ↔ ∃ k, n = some (k + 1) := by
  cases n with
  | none =>
    obtain ⟨empty, -⟩ := tallied.state_of_none
    simp [empty]
  | some n =>
    obtain ⟨full, state⟩ := tallied.state_of_some
    cases n with
    | zero => simp [full, state]
    | succ k => simp [full, state]

end

namespace System

/-- After any calls to connect, to listen and to stop the client that were made one after another,
the state is `connected` only if a session is parked; and a session is parked in another state
exactly when a call that connected was followed by calls that failed to connect, at least one and no
other ones. The state is `disconnected` then. -/
theorem parked_but_unconnected_iff {cfg : Config} {sys : System} (turn : InTurn cfg sys) :
    (sys.shared.state = .connected → sys.shared.hasSession = true) ∧
      ((sys.shared.hasSession = true ∧ sys.shared.state ≠ .connected) ↔
        ∃ xs ys, sys.tasks = xs ++ connects :: ys ∧ ys ≠ [] ∧ ∀ t ∈ ys, FailsToConnect t) ∧
      (sys.shared.hasSession = true → sys.shared.state ≠ .connected →
        sys.shared.state = .disconnected) := by
  have tallied := turn.tallied
  refine ⟨tallied.hasSession_of_connected, ?_, ?_⟩
  · exact tallied.unconnected_iff.trans exists_retries_eq_succ_iff
  · intro full apart
    obtain ⟨n, counted⟩ := tallied.unconnected_iff.1 ⟨full, apart⟩
    rw [counted] at tallied
    rw [tallied.state_of_some.2, if_neg n.succ_ne_zero]

/-- A configuration that allows one attempt and subscribes to nothing. -/
def sampleOnce : Config := { Config.of "ws://feed" [] with retry := .of ⟨0⟩ 1 }

/-- A call that connects. -/
def sampleFirst : List Move × System :=
  play sampleOnce (initial.add (.connect (Connect.start sampleOnce)))
    [.meet 0 .proceed, .meet 0 .proceed, .meet 0 .proceed,
      .meet 0 (.reply (.cacheRead (.ok (some "key"))) ⟨0⟩),
      .meet 0 (.reply (.opened (.ok ())) ⟨1⟩), .meet 0 .proceed, .meet 0 .proceed,
      .meet 0 .proceed]

/-- Another call after it, whose only attempt fails. -/
def sampleSecond : List Move × System :=
  play sampleOnce (sampleFirst.2.add (.connect (Connect.start sampleOnce)))
    [.meet 1 .proceed, .meet 1 .proceed, .meet 1 .proceed,
      .meet 1 (.reply (.cacheRead (.ok (some "key"))) ⟨2⟩),
      .meet 1 (.reply (.opened (.error (.connect "refused"))) ⟨3⟩),
      .meet 1 (.drawn Connect.sampleDraw)]

/-- In the sample the state is `disconnected`, although the session of the first call is parked. -/
theorem sampleSecond_disagrees :
    InTurn sampleOnce sampleSecond.2 ∧ sampleSecond.2.shared.hasSession = true ∧
      sampleSecond.2.shared.state = .disconnected := by
  have norun : ∀ r, Task.connect (Connect.start sampleOnce) ≠ .run r := by
    intro r same
    cases same
  have connected : sampleFirst.2.tasks = [connects] := by rfl
  have failed : sampleSecond.2.tasks =
      [connects, .connect (.finished (.error (.exhausted 1)))] := by rfl
  have first : InTurn sampleOnce sampleFirst.2 := by
    refine .call .nothing .connect norun (.of_play _ _ _) (by rfl) ?_
    rw [connected]
    simp [connects, Task.isFinished]
  have second : InTurn sampleOnce sampleSecond.2 := by
    refine .call first .connect norun (.of_play _ _ _) (by rfl) ?_
    rw [failed]
    simp [connects, Task.isFinished]
  obtain ⟨-, disagree, disconnected⟩ := parked_but_unconnected_iff second
  obtain ⟨parked, apart⟩ := disagree.2 ⟨[], _, failed, by simp, by simp [FailsToConnect]⟩
  exact ⟨second, parked, disconnected parked apart⟩

end System

end FillFeed.Client
