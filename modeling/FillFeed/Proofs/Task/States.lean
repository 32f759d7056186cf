import Mathlib
import FillFeed.Proofs.Connect.Budget
import FillFeed.Proofs.Task.Sessions

/-!
# The connection state along a run

`ConnectionState.Edge` is the diagram of connection states. Each place of a call that keeps the feed
running belongs to one state (`Run.state?`), and each of its steps leaves the state alone or sets
the one that its next place belongs to, along an edge (`Run.Step.state_cases`). So, while the call
is the only one that connects, the state is the one of its place until the client is shut down
(`System.Orderly`), and every change of the state follows the diagram
(`System.states_follow_diagram`).

That a session is confirmed before the state is `connected` needs one thing more: the call parks its
session first, and nobody takes it out of the slot as long as the state is not the terminal one
(`Run.Standing`).
-/

namespace FillFeed

/-- The diagram of connection states. -/
inductive ConnectionState.Edge : ConnectionState → ConnectionState → Prop where
  | connect : Edge .disconnected .connecting
  | subscribe : Edge .connecting .subscribing
  | establish : Edge .subscribing .connected
  | fail {s} (underway : s = .connecting ∨ s = .subscribing ∨ s = .connected) :
    Edge s .disconnected
  | shutDown {s} (alive : s ≠ .shuttingDown) : Edge s .shuttingDown

/-- The state that is published. -/
def Effect.state? : Effect → Option ConnectionState
  | .published s => some s
  | _ => none

/-- The states that are published, in order. -/
def publications (es : List Effect) : List ConnectionState := es.filterMap Effect.state?

/-- Where nothing is done, no state is published. -/
@[simp] lemma publications_nil : publications [] = [] := rfl

/-- What is published is put together like what is done. -/
@[simp] lemma publications_append (xs ys : List Effect) :
    publications (xs ++ ys) = publications xs ++ publications ys := List.filterMap_append

/-- A notice publishes no state. -/
@[simp] lemma publications_noted (n : Notice) (es : List Effect) :
    publications (.noted n :: es) = publications es := rfl

/-- A count publishes no state. -/
@[simp] lemma publications_counted (m : Metric) (es : List Effect) :
    publications (.counted m :: es) = publications es := rfl

/-- A call that begins publishes no state. -/
@[simp] lemma publications_began (call : Call) (es : List Effect) :
    publications (.began call :: es) = publications es := rfl

/-- What a step does to the state: nothing, or one change along an edge, which is published. -/
inductive ConnectionState.Turn (before after : ConnectionState) (told : List ConnectionState) :
    Prop where
  | stays (same : after = before) (untold : told = [])
  | enters (edge : Edge before after) (told : told = [after])

/-- No state is published while a key is asked for. -/
lemma Approval.Step.publishes_nothing {stage : Approval.Stage} {r : Reply}
    {p : Approval.Progress} {did : List Effect} (st : Approval.Step stage r p did) :
    publications did = [] := by
  cases st <;> rfl

namespace Client

open ConnectionState (Edge Turn)

/-- What is told about a closing publishes no state. -/
@[simp] lemma publications_closeNotices (result : Except TransportError Unit) :
    publications (closeNotices result) = [] :=
  filterMap_closeNotices fun _ => rfl

/-- A step that leaves the state alone. -/
structure Steady (found left : Shared) (did : List Effect) : Prop where
  same : left.state = found.state
  untold : publications did = []

/-- A step that sets the state. -/
structure Sets (next : ConnectionState) (found left : Shared) (did : List Effect) : Prop where
  state : left.state = (found.setState next).1.state
  told : publications did = publications (found.setState next).2

section

variable {found left : Shared} {did : List Effect} {next : ConnectionState}

/-- A step that leaves the state alone does nothing to it. -/
lemma Steady.turn (steady : Steady found left did) :
    Turn found.state left.state (publications did) :=
  .stays steady.same steady.untold

/-- A step that sets the state changes it along the edge that leads there. -/
lemma Sets.turn (sets : Sets next found left did) (edge : Edge found.state next) :
    Turn found.state left.state (publications did) := by
  obtain ⟨state, told⟩ := sets
  rw [state, told]
  obtain e | e := found.setState_cases next
  · rw [e]
    exact .stays rfl rfl
  · rw [e]
    exact .enters edge rfl

/-- Nothing leaves the terminal state. -/
lemma Sets.steady_of_terminal (sets : Sets next found left did)
    (terminal : found.state.isTerminal = true) : Steady found left did := by
  obtain ⟨state, told⟩ := sets
  have kept : found.setState next = (found, []) := if_pos (.inl terminal)
  rw [kept] at state told
  exact ⟨state, told⟩

/-- What a step sets does not depend on how many transports were opened. -/
lemma Sets.of_addTransport
    (sets : Sets next found.addTransport.1 left did) : Sets next found left did := by
  obtain ⟨state, told⟩ := sets
  constructor
  · rw [state]
    unfold Shared.setState Shared.addTransport
    split <;> rfl
  · rw [told]
    unfold Shared.setState Shared.addTransport
    split <;> rfl

end

/-- The state that an attempt belongs to. -/
def Attempt.state : Attempt → ConnectionState
  | .credential _ | .opening _ => .connecting
  | .sending _ | .acking _ | .abandoning _ _ => .subscribing

/-- The state that an attempt belongs to, or the session that it ends with. -/
def Attempt.Progress.state? : Attempt.Progress → Option ConnectionState
  | .waits a => some a.state
  | .done (.ok _) => some .subscribing
  | .done (.error _) => none

/-- The state that a call that connects belongs to where it stands. -/
def Connect.state? : Connect → Option ConnectionState
  | .checking _ _ | .announcing _ _ | .reissuing _ _ | .deciding _ _ | .pausing _ _ _
  | .crashed _ => some .disconnected
  | .launching _ _ => some .connecting
  | .attempting _ a => some a.state
  | .parking _ | .replacing _ _ | .confirming _ | .withdrawing | .discarding _
  | .publishing _ => some .subscribing
  | .finished (.ok ()) => some .connected
  | .finished (.error _) => none

/-- The state that a call that keeps the feed running belongs to where it stands. -/
def Run.state? : Run → Option ConnectionState
  | .connecting c => c.state?
  | .listening _ => some .connected
  | .judging _ => some .disconnected
  | .finished _ => none

/-- Whether a call that connects has parked its session. -/
def Connect.Parks : Connect → Prop
  | .replacing _ _ | .confirming _ | .publishing _ | .finished (.ok ()) => True
  | _ => False

/-- Whether a call that keeps the feed running has a parked session. -/
def Run.Parks : Run → Prop
  | .connecting c => c.Parks
  | .listening .taking => True
  | _ => False

/-- A call that is in the state of its place, on the transport that was opened last, with its
session in the slot as long as it is parked. -/
structure Standing (shared : Shared) (state? : Option ConnectionState) (held : List TransportId)
    (parks : Prop) : Prop where
  state : ∀ s, state? = some s → shared.state = s
  current : ∀ t ∈ held, t = shared.opened
  parked : parks → ∃ s, shared.slot = some s ∧ s.transport = shared.opened

section

variable {cfg : Config} {shared : Shared} {h : Happening}

/-- An attempt leaves the state alone, or sets it when it gets its transport. -/
lemma Attempt.Step.state_cases {a : Attempt} {o : Attempt.Outcome}
    (st : Attempt.Step cfg shared a h o) :
    (Steady shared o.shared o.effects ∧ ∀ s, o.progress.state? = some s → a.state = s) ∨
      (Sets .subscribing shared o.shared o.effects ∧ a.state = .connecting ∧
        o.progress.state? = some .subscribing) := by
  have quiet {key : ApprovalKey} {t : TransportId} {codec : Codec} {effects : List Effect}
      {left : Shared} {rest : List Subscription} :
      publications (subscribe left key t codec effects rest).effects = publications effects :=
    filterMap_subscribe fun _ _ => rfl
  have subscribing {key : ApprovalKey} {t : TransportId} {codec : Codec} {effects : List Effect}
      {left : Shared} {rest : List Subscription} :
      (subscribe left key t codec effects rest).progress.state? = some .subscribing := by
    cases rest <;> rfl
  cases st with
  | obtaining st =>
    refine .inl ⟨⟨rfl, st.publishes_nothing⟩, ?_⟩
    rintro s ⟨⟩
    rfl
  | obtained st =>
    refine .inl ⟨⟨rfl, ?_⟩, ?_⟩
    · rw [publications_append, st.publishes_nothing]
      rfl
    · rintro s ⟨⟩
      rfl
  | unobtained st => exact .inl ⟨⟨rfl, st.publishes_nothing⟩, nofun⟩
  | opened =>
    refine .inr ⟨.of_addTransport ⟨by rw [subscribe_shared], ?_⟩, rfl, subscribing⟩
    rw [quiet]
    rfl
  | accepted =>
    refine .inl ⟨⟨by rw [subscribe_shared], ?_⟩, ?_⟩
    · rw [quiet]
      rfl
    · intro s has
      rw [subscribing] at has
      cases has
      rfl
  | unopened | unopenedLate | abandonedLate => exact .inl ⟨⟨rfl, rfl⟩, nofun⟩
  | abandoned => exact .inl ⟨⟨rfl, publications_closeNotices _⟩, nofun⟩
  | sent | unsent | ponged | rejected | ended | unreceived | unanswered =>
    refine .inl ⟨⟨rfl, rfl⟩, ?_⟩
    rintro s ⟨⟩
    rfl

/-- A call that connects leaves the state alone, or sets the one of its next place along an edge. -/
lemma Connect.Step.state_cases {c : Connect} {o : Connect.Outcome}
    (st : Connect.Step cfg shared c h o) :
    (Steady shared o.shared o.effects ∧ ∀ s, o.next.state? = some s → c.state? = some s) ∨
      ∃ s x, c.state? = some s ∧ o.next.state? = some x ∧ Edge s x ∧
        (x = .connected → c.Parks) ∧ Sets x shared o.shared o.effects := by
  cases st with
  | announced =>
    exact .inr ⟨_, _, rfl, rfl, .connect, nofun, rfl, by simp⟩
  | launched =>
    rename_i retry carried
    refine .inl ⟨⟨rfl, ?_⟩, ?_⟩
    · cases carried <;> rfl
    · cases carried <;> exact fun _ => id
  | attempting st | succeeded st =>
    obtain ⟨steady, same⟩ | ⟨sets, connecting, subscribing⟩ := st.state_cases
    · refine .inl ⟨steady, ?_⟩
      intro s has
      exact congrArg some (same s has)
    · refine .inr ⟨_, _, rfl, subscribing, ?_, nofun, sets⟩
      rw [connecting]
      exact .subscribe
  | @failed retry a _ shared' cause effects st =>
    -- an attempt that fails leaves the state to its call
    obtain ⟨steady, -⟩ | ⟨-, -, subscribing⟩ := st.state_cases
    · cases Connect.shared_of_failed st
      have underway : a.state = .connecting ∨ a.state = .subscribing ∨ a.state = .connected := by
        cases a <;> simp [Attempt.state]
      have told := steady.untold
      dsimp only at told
      obtain ⟨rejection, -, e⟩ | ⟨-, e⟩ := failed_cases cfg shared retry cause effects
      · rw [e]
        exact .inr ⟨_, _, rfl, rfl, .fail underway, nofun, rfl, by simp [told]⟩
      · rw [e]
        exact .inr ⟨_, _, rfl, rfl, .fail underway, nofun, rfl, by simp [told]⟩
    · cases subscribing
  | reissuing st => exact .inl ⟨⟨rfl, st.publishes_nothing⟩, fun _ => id⟩
  | reissued st => exact .inl ⟨⟨rfl, st.publishes_nothing⟩, fun _ => id⟩
  | unreissued st =>
    refine .inl ⟨⟨rfl, ?_⟩, fun _ => id⟩
    rw [publications_append, st.publishes_nothing]
    rfl
  | replaced => exact .inl ⟨⟨rfl, publications_closeNotices _⟩, fun _ => id⟩
  | discarded => exact .inl ⟨⟨rfl, publications_closeNotices _⟩, nofun⟩
  | published =>
    exact .inr ⟨_, _, rfl, rfl, .establish, fun _ => trivial, rfl, by simp⟩
  | halted | unlaunched | dropped | exhausted | woken | gone | discardedLate =>
    exact .inl ⟨⟨rfl, rfl⟩, nofun⟩
  | cleared | unpausable | paused | resumed | parked | parkedOver | replacedLate | revoked
  | confirmed | withdrawn => exact .inl ⟨⟨rfl, rfl⟩, fun _ => id⟩

/-- A call that listens leaves the state alone until it fails; without a session it leaves the state
alone even then. -/
lemma Listen.Step.state_cases {l : Listen} {o : Listen.Outcome}
    (st : Listen.Step cfg shared l h o) :
    (Steady shared o.shared o.effects ∧
        ((∀ e, o.next ≠ .finished (.error e)) ∨ (l = .taking ∧ shared.slot = none))) ∨
      ((∃ e, o.next = .finished (.error e)) ∧ Sets .disconnected shared o.shared o.effects) := by
  cases st with
  | unconnected empty => exact .inl ⟨⟨rfl, rfl⟩, .inr ⟨rfl, empty⟩⟩
  | @closed t result closing =>
    cases result with
    | ok =>
      refine .inl ⟨⟨rfl, publications_closeNotices _⟩, .inl ?_⟩
      rintro e ⟨⟩
    | error e => exact .inr ⟨⟨e, rfl⟩, rfl, by simp [conclude]⟩
  | @closedLate t result =>
    cases result with
    | ok =>
      refine .inl ⟨⟨rfl, rfl⟩, .inl ?_⟩
      rintro e ⟨⟩
    | error e => exact .inr ⟨⟨e, rfl⟩, rfl, by simp [conclude]⟩
  | _ =>
    refine .inl ⟨⟨rfl, rfl⟩, .inl ?_⟩
    rintro e ⟨⟩

/-- A call that keeps the feed running belongs to the state that its connecting belongs to. -/
lemma Run.state?_afterConnect (c : Connect) : (afterConnect c).state? = c.state? := by
  unfold afterConnect
  split <;> rfl

/-- A call that is still listening is connected. -/
lemma Run.state?_afterListen {l : Listen} (goesOn : ∀ e, l ≠ .finished (.error e))
    {s : ConnectionState} (has : (afterListen l).state? = some s) : s = .connected := by
  unfold afterListen at has
  split at has
  · cases has
  · exact absurd rfl (goesOn _)
  · cases has
    rfl

/-- A call that keeps the feed running leaves the state alone, or sets the one of its next place
along an edge. Only a listener that finds no session gets to a place that belongs to another
state. -/
lemma Run.Step.state_cases {r : Run} {o : Run.Outcome} (st : Run.Step cfg shared r h o) :
    (Steady shared o.shared o.effects ∧ ((∀ s, o.next.state? = some s → r.state? = some s) ∨
        (r = .listening .taking ∧ shared.slot = none))) ∨
      ∃ s x, r.state? = some s ∧ o.next.state? = some x ∧ Edge s x ∧
        (x = .connected → r.Parks) ∧ Sets x shared o.shared o.effects := by
  cases st with
  | connecting st =>
    obtain ⟨steady, keeps⟩ | ⟨s, x, stood, goes, edge, parks, sets⟩ := st.state_cases
    · rw [← Run.state?_afterConnect] at keeps
      exact .inl ⟨steady, .inl keeps⟩
    · rw [← Run.state?_afterConnect] at goes
      exact .inr ⟨s, x, stood, goes, edge, parks, sets⟩
  | @listening l h o st =>
    have silent : publications (listenEffects o.next) = [] := Run.filterMap_listenEffects rfl
    have told : publications (o.effects ++ listenEffects o.next) = publications o.effects := by
      rw [publications_append, silent, List.append_nil]
    obtain ⟨⟨same, untold⟩, goesOn⟩ | ⟨⟨e, fails⟩, state, sets⟩ := st.state_cases
    · refine .inl ⟨⟨same, told.trans untold⟩, ?_⟩
      obtain goesOn | ⟨rfl, empty⟩ := goesOn
      · left
        intro s has
        rw [Run.state?_afterListen goesOn has]
        rfl
      · exact .inr ⟨rfl, empty⟩
    · refine .inr ⟨.connected, .disconnected, rfl, ?_, .fail (by simp), nofun, state,
        told.trans sets⟩
      dsimp only
      rw [fails]
      rfl
  | stopped => exact .inl ⟨⟨rfl, rfl⟩, .inl nofun⟩
  | restarted => exact .inl ⟨⟨rfl, rfl⟩, .inl fun _ => id⟩

/-- The transport of an attempt is the one that was opened last. -/
lemma Attempt.Step.current {a : Attempt} {o : Attempt.Outcome}
    (st : Attempt.Step cfg shared a h o) (current : ∀ t ∈ a.held, t = shared.opened) :
    ∀ t ∈ o.progress.held, t = o.shared.opened := by
  cases st with
  | opened =>
    rw [subscribe_held, subscribe_shared, Shared.setState_opened]
    intro t mem
    exact List.mem_singleton.1 mem
  | accepted =>
    rw [subscribe_held, subscribe_shared]
    exact current
  | sent | ponged => exact current
  | _ => exact nofun

/-- The transport of a call that connects is the one that was opened last. -/
lemma Connect.Step.current {c : Connect} {o : Connect.Outcome} (st : Connect.Step cfg shared c h o)
    (current : ∀ t ∈ c.held, t = shared.opened) : ∀ t ∈ o.next.held, t = o.shared.opened := by
  cases st with
  | launched =>
    rename_i retry carried
    cases carried <;> exact nofun
  | attempting st => exact st.current current
  | succeeded st => exact st.current current
  | failed =>
    rw [Connect.failed_held]
    exact nofun
  | _ => exact nofun

/-- A parked session stays where it is, and so does its transport the one that was opened last. -/
lemma Connect.Step.keeps_parked {c : Connect} {o : Connect.Outcome}
    (st : Connect.Step cfg shared c h o)
    (current : ∀ t ∈ c.held, t = shared.opened)
    (parked : c.Parks → ∃ s, shared.slot = some s ∧ s.transport = shared.opened) :
    o.next.Parks → ∃ s, o.shared.slot = some s ∧ s.transport = o.shared.opened := by
  cases st with
  | parked | parkedOver => exact fun _ => ⟨_, rfl, current _ (List.mem_singleton_self _)⟩
  | replaced | replacedLate | confirmed => exact parked
  | published =>
    rw [Shared.setState_slot, Shared.setState_opened]
    exact parked
  | @failed retry _ _ shared' cause effects =>
    obtain ⟨rejection, -, e⟩ | ⟨-, e⟩ := failed_cases cfg shared' retry cause effects
    · rw [e]
      exact False.elim
    · rw [e]
      exact False.elim
  | _ => exact False.elim

/-- The transport of a call that listens is the one that was opened last, and what it has taken it
does not take again. -/
lemma Listen.Step.current {l : Listen} {o : Listen.Outcome} (st : Listen.Step cfg shared l h o)
    (current : ∀ t ∈ l.held, t = shared.opened)
    (parked : l = .taking → ∃ s, shared.slot = some s ∧ s.transport = shared.opened) :
    (∀ t ∈ o.next.held, t = o.shared.opened) ∧ o.next ≠ .taking := by
  cases st with
  | took full =>
    refine ⟨?_, nofun⟩
    intro t mem
    obtain ⟨s, full', last⟩ := parked rfl
    cases full.symm.trans full'
    cases List.mem_singleton.1 mem
    exact last
  | closed | closedLate =>
    rw [conclude_next]
    exact ⟨nofun, nofun⟩
  | started | pinging | ponged | skipped | echoing | controlled | handling | pinged | echoed
  | handled | unhandled => exact ⟨current, nofun⟩
  | _ => exact ⟨nofun, nofun⟩

/-- A session that is parked when connecting is over was parked before. -/
lemma Run.parks_of_afterConnect {c : Connect} (parks : (afterConnect c).Parks) : c.Parks := by
  unfold afterConnect at parks
  split at parks
  · exact trivial
  · exact parks.elim
  · exact parks.elim
  · exact parks

/-- While a call listens its session is parked only as long as it is about to be taken. -/
lemma Run.taking_of_afterListen {l : Listen} (parks : (afterListen l).Parks) : l = .taking := by
  unfold afterListen at parks
  split at parks
  · exact parks.elim
  · exact parks.elim
  · cases l with
    | taking => rfl
    | _ => exact parks.elim

/-- A call that keeps the feed running stands in the state of its place, and its transport is the
one that was opened last. -/
def Run.Stands (shared : Shared) (r : Run) : Prop := Standing shared r.state? r.held r.Parks

/-- A call that keeps the feed running stands as it should after each of its steps. -/
lemma Run.Step.stands {r : Run} {o : Run.Outcome} (st : Run.Step cfg shared r h o)
    (alive : shared.state.isTerminal = false) (stands : r.Stands shared) :
    o.next.Stands o.shared := by
  constructor
  · intro s has
    obtain ⟨steady, keeps | ⟨rfl, empty⟩⟩ | ⟨_, x, -, goes, -, -, sets⟩ := st.state_cases
    · exact steady.same.trans (stands.state s (keeps s has))
    -- the session was parked for the listener
    · obtain ⟨s, full, -⟩ := stands.parked trivial
      cases empty.symm.trans full
    · cases goes.symm.trans has
      exact sets.state.trans (Shared.setState_state alive)
  · cases st with
    | connecting st =>
      dsimp only
      rw [Run.held_afterConnect]
      exact st.current stands.current
    | listening st =>
      dsimp only
      rw [Run.held_afterListen]
      exact (st.current stands.current fun taking => stands.parked (taking ▸ trivial)).1
    | stopped | restarted => exact nofun
  · cases st with
    | connecting st =>
      intro parks
      exact st.keeps_parked stands.current stands.parked (Run.parks_of_afterConnect parks)
    | listening st =>
      intro parks
      have untaken := (st.current stands.current fun taking => stands.parked (taking ▸ trivial)).2
      exact absurd (Run.taking_of_afterListen parks) untaken
    | stopped | restarted => exact False.elim

/-- A new call that keeps the feed running stands as it should on a client that is disconnected. -/
lemma Run.stands_start (cfg : Config) (shared : Shared) (idle : shared.state = .disconnected) :
    (start cfg).Stands shared := by
  refine ⟨?_, nofun, False.elim⟩
  rintro s ⟨⟩
  exact idle

/-- A task stays the kind of call that it is. -/
lemma Task.Step.kind {t : Task} {o : Task.Outcome} (st : Task.Step cfg shared t h o) :
    ((∃ r, o.next = .run r) → ∃ r, t = .run r) ∧ ((∃ s, o.next = .stop s) → ∃ s, t = .stop s) := by
  cases st <;> simp

/-- Whether a call that stops the client has not entered the terminal state yet. -/
def Stop.Waits : Stop → Prop
  | .signalling | .publishing => True
  | _ => False

/-- A call that stops the client leaves the state alone, or enters the terminal state. -/
lemma Stop.Step.state_cases {s : Stop} {o : Stop.Outcome} (st : Stop.Step cfg shared s h o) :
    Steady shared o.shared o.effects ∨
      (shared.state ≠ .shuttingDown ∧ o.shared.state = .shuttingDown ∧
        publications o.effects = [.shuttingDown]) := by
  cases st with
  | published =>
    unfold Shared.shutDown
    split
    · exact .inl ⟨rfl, rfl⟩
    · rename_i alive
      refine .inr ⟨?_, rfl, rfl⟩
      intro same
      rw [same] at alive
      exact alive rfl
  | closed => exact .inl ⟨rfl, by simp⟩
  | _ => exact .inl ⟨rfl, rfl⟩

/-- Nothing changes the terminal state. -/
lemma Task.Step.steady_of_terminal {t : Task} {o : Task.Outcome} (st : Task.Step cfg shared t h o)
    (terminal : shared.state.isTerminal = true) : Steady shared o.shared o.effects := by
  cases st with
  | connect st =>
    obtain ⟨steady, -⟩ | ⟨_, _, -, -, -, -, sets⟩ := st.state_cases
    · exact steady
    · exact sets.steady_of_terminal terminal
  | listen st =>
    obtain ⟨steady, -⟩ | ⟨-, sets⟩ := st.state_cases
    · exact steady
    · exact sets.steady_of_terminal terminal
  | run st =>
    obtain ⟨steady, -⟩ | ⟨_, _, -, -, -, -, sets⟩ := st.state_cases
    · exact steady
    · exact sets.steady_of_terminal terminal
  | stop st =>
    obtain steady | ⟨alive, -⟩ := st.state_cases
    · exact steady
    · exact absurd (beq_iff_eq.1 terminal) alive

/-- A call that keeps the feed running and stands as it should, or one that is going to enter the
terminal state. -/
def Task.Orderly (shared : Shared) : Task → Prop
  | .run r => r.Stands shared
  | .stop s => s.Waits
  | _ => False

/-- The signal to stop changes nothing about how calls stand. -/
lemma Task.Orderly.signalled {t : Task} (orderly : t.Orderly shared) :
    t.Orderly { shared with stopped := true } := by
  cases t with
  | run r => exact ⟨orderly.state, orderly.current, orderly.parked⟩
  | stop s => exact orderly
  | connect | listen => exact orderly.elim

/-- Until the client is shut down, a call goes on as it should, and only the one that keeps the feed
running changes more than the signal to stop. -/
lemma Task.Step.orderly {t : Task} {o : Task.Outcome} (st : Task.Step cfg shared t h o)
    (alive : shared.state.isTerminal = false) (orderly : t.Orderly shared) :
    o.shared.state.isTerminal = true ∨ (o.next.Orderly o.shared ∧
      ((∃ r, t = .run r) ∨ o.shared = { shared with stopped := true })) := by
  cases st with
  | connect | listen => exact orderly.elim
  | run st => exact .inr ⟨st.stands alive orderly, .inl ⟨_, rfl⟩⟩
  | stop st =>
    cases st with
    | signalled => exact .inr ⟨trivial, .inr rfl⟩
    | published =>
      have shut : shared.shutDown = ({ shared with state := .shuttingDown }, _) :=
        if_neg (Bool.eq_false_iff.1 alive)
      left
      dsimp only
      rw [shut]
      rfl
    | _ => exact orderly.elim

/-- A step of a task that stands as it should changes the state along an edge, or not at all. -/
lemma Task.Step.turn {t : Task} {o : Task.Outcome} (st : Task.Step cfg shared t h o)
    (orderly : t.Orderly shared) :
    Turn shared.state o.shared.state (publications o.effects) := by
  cases st with
  | connect | listen => exact orderly.elim
  | run st =>
    obtain ⟨steady, -⟩ | ⟨s, x, stood, -, edge, -, sets⟩ := st.state_cases
    · exact steady.turn
    · rw [← orderly.state s stood] at edge
      exact sets.turn edge
  | stop st =>
    obtain steady | ⟨alive, state, told⟩ := st.state_cases
    · exact steady.turn
    · rw [state, told]
      exact .enters (.shutDown alive) rfl

/-- The step that enters the state `connected` finds the session in the slot, on the transport that
was opened last. -/
lemma Task.Step.connects {t : Task} {o : Task.Outcome} (st : Task.Step cfg shared t h o)
    (orderly : t.Orderly shared) (apart : shared.state ≠ .connected)
    (connected : o.shared.state = .connected) :
    ∃ s, shared.slot = some s ∧ s.transport = shared.opened := by
  cases st with
  | connect | listen => exact orderly.elim
  | run st =>
    obtain ⟨⟨same, -⟩, -⟩ | ⟨_, x, -, -, -, parks, sets⟩ := st.state_cases
    · exact absurd (same.symm.trans connected) apart
    · have entered := sets.state.symm.trans connected
      obtain e | e := shared.setState_cases x
      · rw [e] at entered
        exact absurd entered apart
      · rw [e] at entered
        exact orderly.parked (parks entered)
  | stop st =>
    obtain ⟨same, -⟩ | ⟨-, state, -⟩ := st.state_cases
    · exact absurd (same.symm.trans connected) apart
    · cases state.symm.trans connected

end

namespace System

/-- A client on which one call keeps the feed running, and all others stop the client. -/
def Alone (sys : System) (i : Nat) : Prop :=
  ∀ j t, sys.tasks[j]? = some t → (j = i ∧ ∃ r, t = .run r) ∨ ∃ s, t = .stop s

/-- A client that is shut down, or whose calls stand as they should; as long as nobody connects its
state is `disconnected`. -/
def Orderly (sys : System) (i : Nat) : Prop :=
  sys.shared.state.isTerminal = true ∨
    ((∀ t ∈ sys.tasks, t.Orderly sys.shared) ∧
      (sys.tasks.length ≤ i → sys.shared.state = .disconnected))

section

variable {cfg : Config} {a b sys : System} {ms : List Move} {i j : Nat} {d : Deed Task}

/-- A client on which one call keeps the feed running was so before another call was made. -/
lemma Alone.of_call {t : Task} (alone : (sys.add t).Alone i) : sys.Alone i := by
  intro j t' at_j
  have lt : j < sys.tasks.length := (List.getElem?_eq_some_iff.1 at_j).1
  exact alone j t' ((List.getElem?_append_left lt).trans at_j)

/-- A client on which one call keeps the feed running was so before a deed. -/
lemma Alone.of_act (valid : Task.Valid cfg d) (at_j : sys.tasks[j]? = some d.stood)
    (alone : System.Alone ⟨d.left, sys.tasks.set j d.goes⟩ i) : sys.Alone i := by
  intro k t at_k
  by_cases same : j = k
  · subst same
    cases at_j.symm.trans at_k
    have lt : j < sys.tasks.length := (List.getElem?_eq_some_iff.1 at_j).1
    -- the call was of the same kind before its step
    obtain ⟨rfl, runs⟩ | stops := alone j d.goes (List.getElem?_set_self lt)
    · exact .inl ⟨rfl, valid.step.kind.1 runs⟩
    · exact .inr (valid.step.kind.2 stops)
  · exact alone k t ((List.getElem?_set_ne same).trans at_k)

/-- A client on which one call keeps the feed running was so all along. -/
lemma Trace.alone (run : Trace cfg a ms b) (alone : b.Alone i) : a.Alone i := by
  induction run with
  | refl => exact alone
  | call _ _ ih => exact ih alone.of_call
  | act _ at_j _ valid ih => exact ih (alone.of_act valid at_j)

/-- A client whose calls stand as they should has another call made. -/
lemma Orderly.call {t : Task} (orderly : sys.Orderly i) (alone : (sys.add t).Alone i)
    (fresh : Task.Fresh cfg t) : (sys.add t).Orderly i := by
  obtain terminal | ⟨stand, idle⟩ := orderly
  · exact .inl terminal
  · have last : (sys.add t).tasks[sys.tasks.length]? = some t := by simp [add]
    have short (le : (sys.add t).tasks.length ≤ i) : sys.tasks.length ≤ i :=
      (Nat.le_succ _).trans (by simpa [add] using le)
    refine .inr ⟨?_, fun le => idle (short le)⟩
    intro t' mem
    obtain before | new := List.mem_append.1 mem
    · exact stand t' before
    · cases List.mem_singleton.1 new
      obtain ⟨rfl, r, rfl⟩ | ⟨s, rfl⟩ := alone _ _ last
      · cases fresh
        exact Run.stands_start cfg sys.shared (idle le_rfl)
      · cases fresh
        exact trivial

/-- A client whose calls stand as they should has a deed done by one of them. -/
lemma Orderly.act (orderly : sys.Orderly i) (alone : sys.Alone i)
    (at_j : sys.tasks[j]? = some d.stood) (found : d.found = sys.shared)
    (valid : Task.Valid cfg d) : System.Orderly ⟨d.left, sys.tasks.set j d.goes⟩ i := by
  have st := valid.step
  rw [found] at st
  by_cases terminal : sys.shared.state.isTerminal = true
  · left
    dsimp only
    rw [(st.steady_of_terminal terminal).same]
    exact terminal
  · obtain terminal' | ⟨stand, idle⟩ := orderly
    · exact absurd terminal' terminal
    have here : d.stood.Orderly sys.shared := stand _ (List.mem_of_getElem? at_j)
    obtain terminal' | ⟨goes, runs | signals⟩ := st.orderly (Bool.eq_false_iff.2 terminal) here
    · exact .inl terminal'
    -- all other calls stop the client, and stand anywhere in any state
    · have first : j = i := by
        obtain ⟨same, -⟩ | ⟨s, stops⟩ := alone _ _ at_j
        · exact same
        · obtain ⟨r, runs⟩ := runs
          cases runs.symm.trans stops
      refine .inr ⟨?_, ?_⟩
      · intro t mem
        obtain rfl | ⟨k, ne, at_k⟩ := mem_set_cases mem
        · exact goes
        · obtain ⟨same, -⟩ | ⟨s, rfl⟩ := alone _ _ at_k
          · exact absurd (same.trans first.symm) ne
          · exact stand _ (List.mem_of_getElem? at_k)
      · intro absent
        have lt : j < sys.tasks.length := (List.getElem?_eq_some_iff.1 at_j).1
        rw [List.length_set, first.symm] at absent
        exact absurd lt (Nat.not_lt.2 absent)
    · dsimp only at signals goes
      rw [signals] at goes ⊢
      refine .inr ⟨?_, ?_⟩
      · intro t mem
        obtain rfl | ⟨k, -, at_k⟩ := mem_set_cases mem
        · exact goes
        · exact (stand _ (List.mem_of_getElem? at_k)).signalled
      · rw [List.length_set]
        exact idle

/-- On a client on which one call keeps the feed running all calls stand as they should. -/
lemma Trace.orderly (run : Trace cfg initial ms sys) (alone : sys.Alone i) : sys.Orderly i := by
  induction run with
  | refl => exact .inr ⟨fun t mem => absurd mem List.not_mem_nil, fun _ => rfl⟩
  | call _ fresh ih => exact (ih alone.of_call).call alone fresh
  | act _ at_j found valid ih =>
    have before := alone.of_act valid at_j
    exact (ih before).act before at_j found valid

/-- A client that is shut down stays so, and publishes nothing more. -/
lemma Trace.steady_of_terminal (run : Trace cfg a ms b)
    (terminal : a.shared.state = .shuttingDown) :
    b.shared.state = .shuttingDown ∧ publications (seenOf ms) = [] := by
  induction run with
  | refl => exact ⟨terminal, rfl⟩
  | call _ _ ih => exact ih
  | act _ _ found valid ih =>
    obtain ⟨before, untold⟩ := ih
    have terminal' := found.symm ▸ before
    obtain ⟨same, silent⟩ := valid.step.steady_of_terminal (beq_iff_eq.2 terminal')
    refine ⟨same.trans terminal', ?_⟩
    rw [seenOf_concat, publications_append, untold]
    exact silent

end

/-- In every run of a client on which one call keeps the feed running and any number of calls stop
the client, each step leaves the state alone, or makes one change of it along an edge of the diagram
and publishes that. The state becomes `connected` only when a session is parked, on the transport
that was opened last, over which every subscription was confirmed and nothing else has passed. And
once a client is shut down, no step of any call changes its state or publishes one. -/
theorem states_follow_diagram {cfg : Config} :
    (∀ ms sys i, Trace cfg initial ms sys → sys.Alone i → ∀ pre m post, ms = pre ++ m :: post →
      Turn m.deed.found.state m.deed.left.state (publications m.deed.did) ∧
        (m.deed.found.state ≠ .connected → m.deed.left.state = .connected →
          ∃ s key xs, m.deed.found.slot = some s ∧ s.transport = m.deed.found.opened ∧
            cfg.subscriptions = xs.map Exchange.subscription ∧
            passing s.transport (seenOf pre) = Attempt.confirmed key xs)) ∧
      ∀ a ms b, Trace cfg a ms b → a.shared.state = .shuttingDown →
        b.shared.state = .shuttingDown ∧ publications (seenOf ms) = [] := by
  refine ⟨?_, fun a ms b run terminal => run.steady_of_terminal terminal⟩
  rintro ms sys i run alone pre m post rfl
  obtain ⟨mid, before, at_m, found, valid, after⟩ := run.through
  have alone' : mid.Alone i := (after.alone alone).of_act valid at_m
  have st := valid.step
  obtain terminal | ⟨stand, -⟩ := before.orderly alone'
  · rw [← found] at terminal
    have steady := st.steady_of_terminal terminal
    refine ⟨steady.turn, ?_⟩
    intro apart connected
    exact absurd (steady.same.symm.trans connected) apart
  · have here : m.deed.stood.Orderly m.deed.found := found ▸ stand _ (List.mem_of_getElem? at_m)
    refine ⟨st.turn here, ?_⟩
    intro apart connected
    obtain ⟨s, full, last⟩ := st.connects here apart connected
    have parked : mid.shared.slot = some s := found ▸ full
    obtain ⟨key, xs, all, -, same⟩ := before.session (.inl parked)
    -- nothing is heard on a session that is parked, so that its handshake is all that has passed
    rw [(before.conversing.parked s parked).1, List.append_nil] at same
    exact ⟨s, key, xs, full, last, all, same⟩

/-- A call that keeps the feed running up to its first request, and one that is going to stop the
client. -/
def sampleFeed : List Move × System :=
  play Connect.sampleConfig initial
    [.run, .stop, .meet 0 .proceed, .meet 0 .proceed, .meet 0 .proceed,
      .meet 0 (.reply (.cacheRead (.ok (some "old"))) ⟨0⟩),
      .meet 0 (.reply (.opened (.ok ())) ⟨1⟩), .meet 0 (.reply (.sent (.ok ())) ⟨2⟩)]

/-- The subscription of the sample is confirmed. -/
def sampleConfirmed : Move := ⟨0, sampleGranted.map fun c => .run (Run.afterConnect c)⟩

/-- The sample from then on, up to the change to `connected`. -/
def samplePublished : List Move × System :=
  play Connect.sampleConfig
    ⟨sampleFeed.2.shared, sampleFeed.2.tasks.set 0 sampleConfirmed.deed.goes⟩
    [.meet 0 .proceed, .meet 0 .proceed, .meet 0 .proceed]

/-- The client of the sample is shut down. -/
def sampleClosed : List Move × System :=
  play Connect.sampleConfig samplePublished.2 [.meet 1 .proceed, .meet 1 .proceed]

/-- The session of the sample is taken out of the slot, and its transport is closed. -/
def sampleTaken : List Move × System :=
  play Connect.sampleConfig sampleClosed.2
    [.meet 1 .proceed, .meet 0 .proceed, .meet 0 .proceed, .meet 1 (.reply (.closed (.ok ())) ⟨9⟩)]

/-- In the sample the state becomes `connected` when the subscription is confirmed; and once the
client is shut down the state stays, although the listener finds no session then. -/
theorem sampleClosed_follows :
    (∃ m, samplePublished.1 = samplePublished.1.take 2 ++ [m] ∧
        m.deed.found.state = .subscribing ∧ m.deed.left.state = .connected ∧
        ∃ s key xs, m.deed.found.slot = some s ∧
          [Connect.sampleSubscription] = xs.map Exchange.subscription ∧
          passing s.transport
              (seenOf (sampleFeed.1 ++ [sampleConfirmed] ++ samplePublished.1.take 2)) =
            Attempt.confirmed key xs) ∧
      sampleTaken.1.length = 4 ∧ sampleTaken.2.shared.state = .shuttingDown := by
  have feed : Trace Connect.sampleConfig initial sampleFeed.1 sampleFeed.2 := .of_play _ _ _
  have confirmed : Task.Valid Connect.sampleConfig sampleConfirmed.deed :=
    Task.advance_iff.2 (.run (.connecting sampleGranted_step))
  have published : Trace Connect.sampleConfig
      ⟨sampleFeed.2.shared, sampleFeed.2.tasks.set 0 sampleConfirmed.deed.goes⟩ samplePublished.1
      samplePublished.2 := .of_play _ _ _
  have run : Trace Connect.sampleConfig initial (sampleFeed.1 ++ [sampleConfirmed] ++
      samplePublished.1) samplePublished.2 := (feed.act rfl rfl confirmed).append published
  have alone : samplePublished.2.Alone 0 := by
    have tasks : samplePublished.2.tasks = [.run (.listening .taking), .stop .signalling] := by rfl
    intro j t at_j
    rw [tasks] at at_j
    match j, at_j with
    | 0, at_j => exact .inl ⟨rfl, _, (Option.some_inj.1 at_j).symm⟩
    | 1, at_j => exact .inr ⟨_, (Option.some_inj.1 at_j).symm⟩
  have taken : Trace Connect.sampleConfig sampleClosed.2 sampleTaken.1 sampleTaken.2 :=
    .of_play _ _ _
  obtain ⟨diagram, terminal⟩ := @states_follow_diagram Connect.sampleConfig
  obtain ⟨m, last, before, after⟩ : ∃ m, samplePublished.1 = samplePublished.1.take 2 ++ [m] ∧
      m.deed.found.state = .subscribing ∧ m.deed.left.state = .connected :=
    ⟨_, by rfl, by rfl, by rfl⟩
  have apart : m.deed.found.state ≠ .connected := by
    rw [before]
    exact nofun
  have split : sampleFeed.1 ++ [sampleConfirmed] ++ samplePublished.1 =
      sampleFeed.1 ++ [sampleConfirmed] ++ samplePublished.1.take 2 ++ m :: [] := by
    rw [List.append_assoc _ (List.take 2 _), ← last]
  obtain ⟨s, key, xs, full, -, all, same⟩ := (diagram _ _ 0 run alone _ m _ split).2 apart after
  refine ⟨⟨m, last, before, after, s, key, xs, full, all, same⟩, by rfl, ?_⟩
  exact (terminal _ _ _ taken (by rfl)).1

end System

end Client

end FillFeed
