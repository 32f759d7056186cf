import Mathlib
import FillFeed.Proofs.Task.Ending

/-!
# Pauses between attempts

A call that keeps the feed running begins attempts from two loops: after an attempt that failed, and
after a listener that failed. Its `tempo` lists the attempts, the failures and the pauses that are
over, and consists of rounds, each of which begins with an attempt (`Round`). A failed attempt is
followed by a pause; a failed listener is not, as the call connects anew at once. So between two
attempts in a row the planned delay passes exactly when the first one failed
(`pauses_after_failures`).
-/

namespace FillFeed.Client

/-- What marks the attempts of a call that keeps the feed running, and the time between them. -/
inductive Beat where
  | begins
  | fails
  | sleeps (delay : Duration)
  | loses (cause : ClientError)
  deriving DecidableEq

/-- What an effect says about the tempo. -/
def beat? : Effect → Option Beat
  | .noted (.connecting ..) => some .begins
  | .noted (.attemptFailed ..) => some .fails
  | .noted (.listenerFailed cause) => some (.loses cause)
  | _ => none

/-- What a call that keeps the feed running does when it meets something. -/
def Run.deed? (cfg : Config) (found : Shared) (r : Run) (h : Happening) : Option (Deed Run) :=
  (r.advance cfg found h).map fun o => ⟨found, r, h, o.shared, o.next, o.effects⟩

/-- What a call does when it meets something is a deed of it. -/
lemma Run.valid_of_deed? {cfg : Config} {found : Shared} {r : Run} {h : Happening} {d : Deed Run}
    (does : r.deed? cfg found h = some d) : Run.Valid cfg d ∧ d.stood = r := by
  obtain ⟨o, goes, rfl⟩ := Option.map_eq_some_iff.1 does
  exact ⟨goes, rfl⟩

/-- The pause that is over when a call goes on. -/
def Run.slept : Run → Happening → List Beat
  | .connecting (.pausing _ _ delay), .elapsed => [.sleeps delay]
  | _, _ => []

/-- The tempo of some deeds. -/
def tempo (ds : List (Deed Run)) : List Beat :=
  ds.flatMap fun d => d.stood.slept d.met ++ d.did.filterMap beat?

/-- What an attempt leads to that another one follows: it fails, or its session is lost. -/
inductive Round where
  | failed
  | lost (cause : ClientError)

/-- What lies between the attempt of a round and the next one. -/
def Round.interior (delay : Duration) : Round → List Beat
  | .failed => [.fails, .sleeps delay]
  | .lost cause => [.loses cause]

/-- The tempo of some rounds. -/
def Round.beats (delay : Duration) (rounds : List Round) : List Beat :=
  rounds.flatMap fun r => .begins :: r.interior delay

/-- What a call that connects has done since its last round, where it stands. -/
def Connect.Fits (cfg : Config) (rest : List Beat) : Connect → Prop
  | .checking _ _ | .announcing _ _ => rest = []
  | .launching _ _ | .attempting _ _ | .parking _ | .replacing _ _ | .confirming _ | .withdrawing
  | .discarding _ | .publishing _ | .finished (.ok ()) => rest = [.begins]
  | .reissuing _ _ | .deciding _ _ => rest = [.begins, .fails]
  | .pausing _ _ delay => rest = [.begins, .fails] ∧ delay = cfg.retry.delay
  | .crashed _ | .finished (.error _) => rest <+: [.begins, .fails]

/-- What a call that keeps the feed running has done since its last round, where it stands. -/
def Run.Fits (cfg : Config) (rest : List Beat) : Run → Prop
  | .connecting c => c.Fits cfg rest
  | .listening _ | .judging _ => rest = [.begins]
  | .finished _ => rest <+: [.begins, .fails]

section

variable {cfg : Config} {shared : Shared} {h : Happening} {rest : List Beat}

/-- A change of the state is no beat. -/
@[simp] lemma filterMap_beat_setState {next : ConnectionState} :
    (shared.setState next).2.filterMap beat? = [] :=
  filterMap_setState (fun _ _ => rfl) fun _ => rfl

/-- What is told about a closing is no beat. -/
@[simp] lemma filterMap_beat_closeNotices {result : Except TransportError Unit} :
    (closeNotices result).filterMap beat? = [] :=
  filterMap_closeNotices fun _ => rfl

/-- There is no beat while a key is asked for. -/
lemma filterMap_beat_approval {stage : Approval.Stage} {r : Reply} {p : Approval.Progress}
    {did : List Effect} (st : Approval.Step stage r p did) : did.filterMap beat? = [] := by
  cases st <;> rfl

/-- There is no beat within an attempt. -/
lemma Attempt.Step.filterMap_beat {a : Attempt} {o : Attempt.Outcome}
    (st : Attempt.Step cfg shared a h o) : o.effects.filterMap beat? = [] := by
  cases st with
  | obtaining st | unobtained st => exact filterMap_beat_approval st
  | obtained st =>
    rw [List.filterMap_append, filterMap_beat_approval st]
    rfl
  | opened =>
    rw [filterMap_subscribe fun _ _ => rfl, List.filterMap_cons_none rfl, filterMap_beat_setState]
  | accepted =>
    rw [filterMap_subscribe fun _ _ => rfl]
    rfl
  | abandoned => exact filterMap_beat_closeNotices
  | _ => rfl

/-- There is no beat while a call listens. -/
lemma Listen.Step.filterMap_beat {l : Listen} {o : Listen.Outcome}
    (st : Listen.Step cfg shared l h o) : o.effects.filterMap beat? = [] := by
  cases st with
  | closed =>
    rw [filterMap_conclude (fun _ _ => rfl) (fun _ => rfl) fun _ => rfl]
    exact filterMap_beat_closeNotices
  | closedLate => exact filterMap_conclude (fun _ _ => rfl) (fun _ => rfl) fun _ => rfl
  | _ => rfl

/-- A step of a call that connects goes on with the round, or ends a round with the pause after a
failure. -/
lemma Connect.Step.fits {c : Connect} {o : Connect.Outcome} (st : Connect.Step cfg shared c h o)
    (steady : cfg.retry.jitter.isAtMostZero = true) (counts : Counts cfg c)
    (fits : c.Fits cfg rest) :
    o.next.Fits cfg
        (rest ++ ((Run.connecting c).slept h ++ o.effects.filterMap beat?)) ∨
      (rest ++ ((Run.connecting c).slept h ++ o.effects.filterMap beat?) =
          .begins :: Round.failed.interior cfg.retry.delay ∧
        o.next.Fits cfg []) := by
  have one : [Beat.begins] <+: [.begins, .fails] := ⟨[.fails], rfl⟩
  cases st with
  | resumed =>
    obtain ⟨rfl, rfl⟩ := fits
    exact .inr ⟨rfl, rfl⟩
  | halted => cases fits; exact .inl List.nil_prefix
  | unlaunched | dropped | gone | discardedLate => cases fits; exact .inl one
  | discarded =>
    cases fits
    left
    rw [filterMap_beat_closeNotices]
    exact one
  | woken =>
    obtain ⟨rfl, -⟩ := fits
    exact .inl List.prefix_rfl
  | exhausted | unpausable => cases fits; exact .inl List.prefix_rfl
  | cleared => exact .inl (by cases fits; rfl)
  | announced =>
    cases fits
    left
    simp [Run.slept, Fits, beat?, List.filterMap_cons]
  | launched =>
    rename_i retry carried
    cases fits
    cases carried <;> exact .inl rfl
  | attempting st | succeeded st =>
    cases fits
    left
    dsimp only
    rw [st.filterMap_beat]
    rfl
  | @failed retry _ _ shared' cause effects st =>
    cases fits
    have quiet := st.filterMap_beat
    dsimp only at quiet
    left
    obtain ⟨rejection, -, e⟩ | ⟨-, e⟩ := failed_cases cfg shared' retry cause effects
    · rw [e]
      simp [Run.slept, Fits, quiet, beat?, List.filterMap_cons]
    · rw [e]
      simp [Run.slept, Fits, quiet, beat?, List.filterMap_cons]
  | reissuing st | reissued st =>
    cases fits
    left
    dsimp only
    rw [filterMap_beat_approval st]
    rfl
  | unreissued st =>
    cases fits
    left
    dsimp only
    rw [List.filterMap_append, filterMap_beat_approval st]
    rfl
  | paused allowed =>
    cases fits
    obtain ⟨-, ⟨none, -⟩ | ⟨some, -⟩⟩ := Retry.fail_cases allowed
    · cases none
    -- without jitter the pause is the planned delay
    · rw [counts.plan_eq, Retry.Plan.pause_of_steady steady] at some
      cases some
      exact .inl ⟨rfl, rfl⟩
  | replaced =>
    cases fits
    left
    simp [Run.slept, Fits]
  | published =>
    cases fits
    left
    simp [Run.slept, Fits, beat?, List.filterMap_cons]
  | parked | parkedOver | replacedLate | revoked | confirmed | withdrawn =>
    cases fits
    exact .inl rfl

/-- The tempo fits where it did when connecting is over. -/
lemma Run.fits_afterConnect {c : Connect} (fits : c.Fits cfg rest) :
    (afterConnect c).Fits cfg rest := by
  unfold afterConnect
  split
  · exact fits
  · exact fits
  · exact fits
  · exact fits

/-- The tempo fits after an attempt that has led to a session. -/
lemma Run.fits_afterListen (cfg : Config) (l : Listen) : (afterListen l).Fits cfg [.begins] := by
  unfold afterListen
  split
  · exact ⟨[.fails], rfl⟩
  · rfl
  · rfl

/-- A step of a call that keeps the feed running goes on with the round, or ends it with the pause
after a failure or with the loss of the session. -/
lemma Run.Step.fits {r : Run} {o : Run.Outcome} (st : Run.Step cfg shared r h o)
    (steady : cfg.retry.jitter.isAtMostZero = true) (counts : r.Counts cfg)
    (fits : r.Fits cfg rest) :
    o.next.Fits cfg (rest ++ (r.slept h ++ o.effects.filterMap beat?)) ∨
      ∃ round : Round, rest ++ (r.slept h ++ o.effects.filterMap beat?) =
          .begins :: round.interior cfg.retry.delay ∧ o.next.Fits cfg [] := by
  cases st with
  | connecting st =>
    obtain goesOn | ⟨ends, anew⟩ := st.fits steady counts fits
    · exact .inl (Run.fits_afterConnect goesOn)
    · exact .inr ⟨.failed, ends, Run.fits_afterConnect anew⟩
  | @listening l h o st =>
    cases fits
    have quiet : (o.effects ++ listenEffects o.next).filterMap beat? = [] := by
      rw [List.filterMap_append, st.filterMap_beat, Run.filterMap_listenEffects rfl]
      rfl
    left
    dsimp only
    rw [quiet]
    exact Run.fits_afterListen cfg o.next
  | stopped =>
    cases fits
    exact .inl ⟨[.fails], rfl⟩
  | @restarted e =>
    cases fits
    exact .inr ⟨.lost e, rfl, rfl⟩

/-- The tempo of a call without jitter consists of rounds, and of the one that is under way. -/
lemma Run.Course.tempo_eq {r : Run} {ds : List (Deed Run)}
    (steady : cfg.retry.jitter.isAtMostZero = true)
    (run : Course (Run.Valid cfg) (start cfg) ds r) :
    ∃ rounds rest, tempo ds = Round.beats cfg.retry.delay rounds ++ rest ∧ r.Fits cfg rest := by
  induction run with
  | refl => exact ⟨[], [], rfl, rfl⟩
  | @tail ds d run valid ih =>
    obtain ⟨rounds, rest, parts, fits⟩ := ih
    have more : tempo (ds ++ [d]) =
        Round.beats cfg.retry.delay rounds ++
          (rest ++ (d.stood.slept d.met ++ d.did.filterMap beat?)) := by
      rw [← List.append_assoc, ← parts]
      simp [tempo]
    have counts : d.stood.Counts cfg :=
      run.preserves (fun _ _ valid => (Run.Valid.step valid).counts) (.start _)
    obtain goesOn | ⟨round, ends, anew⟩ := (Run.Valid.step valid).fits steady counts fits
    · exact ⟨rounds, _, more, goesOn⟩
    · refine ⟨rounds ++ [round], [], ?_, anew⟩
      rw [more, ends]
      simp [Round.beats]

/-- Since its last round a call has begun an attempt at most, and that one may have failed. -/
lemma Run.Fits.prefix {r : Run} (fits : r.Fits cfg rest) : rest <+: [.begins, .fails] := by
  have one : [Beat.begins] <+: [.begins, .fails] := ⟨[.fails], rfl⟩
  cases r with
  | connecting c =>
    cases c with
    | checking | announcing => cases fits; exact List.nil_prefix
    | reissuing | deciding => cases fits; exact List.prefix_rfl
    | pausing =>
      obtain ⟨rfl, -⟩ := fits
      exact List.prefix_rfl
    | crashed => exact fits
    | finished result =>
      cases result with
      | ok => cases fits; exact one
      | error => exact fits
    | _ => cases fits; exact one
  | listening | judging => cases fits; exact one
  | finished => exact fits

/-- No attempt begins within a round. -/
lemma Round.begins_notMem_interior (delay : Duration) (round : Round) :
    .begins ∉ round.interior delay := by
  cases round <;> simp [interior]

/-- The first beat of all is that an attempt begins. -/
lemma Round.head_beats {delay : Duration} {rounds : List Round} {b : Beat} {bs : List Beat}
    (short : rest <+: [.begins, .fails]) (next : beats delay rounds ++ rest = b :: bs) :
    b = .begins := by
  cases rounds with
  | nil =>
    obtain ⟨more, all⟩ := short
    have next' : rest = b :: bs := next
    rw [next'] at all
    exact (List.cons.inj all).1
  | cons round rounds => exact (List.cons.inj next).1.symm

/-- Between two attempts in a row there is what lies inside a round. -/
lemma Round.between {delay : Duration} {rounds : List Round} {xs mid ys : List Beat}
    (short : rest <+: [.begins, .fails])
    (split : beats delay rounds ++ rest = xs ++ .begins :: (mid ++ .begins :: ys))
    (inside : .begins ∉ mid) : ∃ round : Round, mid = round.interior delay := by
  induction rounds generalizing xs with
  | nil =>
    -- two attempts do not fit into an unfinished round
    exfalso
    have few := short.sublist.count_le .begins
    have many := congrArg (List.count .begins) split
    simp [beats] at few many
    omega
  | cons round rounds ih =>
    have split' : .begins :: (round.interior delay ++ (beats delay rounds ++ rest)) =
        xs ++ .begins :: (mid ++ .begins :: ys) := by
      rw [← split]
      simp [beats]
    cases xs with
    | nil =>
      obtain ⟨-, split'⟩ := List.cons.inj split'
      obtain ⟨more, e, later⟩ | ⟨more, e, later⟩ := List.append_eq_append_iff.1 split'
      · cases more with
        | nil => exact ⟨round, by simpa using e⟩
        | cons b bs =>
          cases head_beats short later
          exact absurd (by simp [e]) inside
      · cases more with
        | nil => exact ⟨round, by simpa using e.symm⟩
        | cons b bs =>
          cases (List.cons.inj later).1
          exact absurd (by simp [e]) (round.begins_notMem_interior delay)
    | cons x xs =>
      obtain ⟨-, split'⟩ := List.cons.inj split'
      obtain ⟨more, -, later⟩ | ⟨more, e, later⟩ := List.append_eq_append_iff.1 split'
      · exact ih later
      · cases more with
        | nil => exact @ih [] later.symm
        | cons b bs =>
          cases (List.cons.inj later).1
          exact absurd (by simp [e]) (round.begins_notMem_interior delay)

end

/-- Between two attempts in a row of a call that keeps the feed running without jitter, one of two
things happens. Either the first attempt fails, and the planned delay passes. Or it succeeds, its
session is lost later on, and the next attempt is made without a pause. -/
theorem paused_unless_lost {cfg : Config} {ds : List (Deed Run)} {r : Run}
    {before between after : List Beat} (steady : cfg.retry.jitter.isAtMostZero = true)
    (run : Course (Run.Valid cfg) (Run.start cfg) ds r)
    (split : tempo ds = before ++ .begins :: (between ++ .begins :: after))
    (inside : .begins ∉ between) :
    between = [.fails, .sleeps cfg.retry.delay] ∨ ∃ cause, between = [.loses cause] := by
  obtain ⟨rounds, rest, parts, fits⟩ := Run.Course.tempo_eq steady run
  obtain ⟨round, rfl⟩ := Round.between fits.prefix (parts.symm.trans split) inside
  cases round with
  | failed => exact .inl rfl
  | lost cause => exact .inr ⟨cause, rfl⟩

/-- A call whose first attempt fails, whose second one succeeds, and whose session is closed by the
server. -/
def sampleTempo : List (Deed Run) × Run :=
  replay (Run.deed? Connect.sampleBudget) Shared.initial (Run.start Connect.sampleBudget)
    [.proceed, .proceed, .proceed, .reply (.cacheRead (.ok (some "key"))) ⟨0⟩,
      .reply (.opened (.error (.connect "refused"))) ⟨1⟩, .drawn Connect.sampleDraw, .elapsed,
      .proceed, .proceed, .proceed, .reply (.cacheRead (.ok (some "key"))) ⟨2⟩,
      .reply (.opened (.ok ())) ⟨3⟩, .proceed, .proceed, .proceed, .proceed, .tick ⟨4⟩,
      .reply (.received (.ok none)) ⟨5⟩, .reply (.closed (.ok ())) ⟨6⟩, .proceed, .proceed,
      .proceed]

/-- In the sample no time passes between the second attempt and the third. -/
theorem sampleTempo_rushes :
    Course (Run.Valid Connect.sampleBudget) (Run.start Connect.sampleBudget) sampleTempo.1
        sampleTempo.2 ∧
      ∃ between, tempo sampleTempo.1 =
          [Beat.begins, .fails, .sleeps ⟨7⟩] ++ .begins :: (between ++ [.begins]) ∧
        .begins ∉ between ∧ ∃ cause, between = [.loses cause] := by
  have run : Course (Run.Valid Connect.sampleBudget) (Run.start Connect.sampleBudget) sampleTempo.1
      sampleTempo.2 := .of_replay (fun _ _ _ _ => Run.valid_of_deed?) _ _ _
  have split : tempo sampleTempo.1 =
      [Beat.begins, .fails, .sleeps ⟨7⟩] ++ .begins :: ([.loses .closed] ++ [.begins]) := by rfl
  have inside : Beat.begins ∉ [Beat.loses .closed] := by decide
  obtain slept | lost := paused_unless_lost (by rfl) run split inside
  · cases slept
  · exact ⟨run, [.loses .closed], split, inside, lost⟩

end FillFeed.Client
