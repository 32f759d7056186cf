import Mathlib
import FillFeed.Proofs.Listen.Fidelity

/-!
# Giving up on a silent server

What concerns the keepalive of a connection is kept as a record of `Pulse`s: something is heard, the
interval is over and some action is taken, a ping is sent. A record is `Kept` if every action is the
one that `Keepalive.tick` decides on, and the record of every listener is (`Course.tracks`).

`silent_server_given_up` says when a server is given up. In a record whose times do not decrease
this depends on the earliest ping since which nothing was heard (`Earliest`), and the silence that
is told is the time since then; so a server that is silent from the start is given up at a tick that
can be computed, and one that answers in time never is (`Prompt`). The argument rests on what a
keepalive remembers: the first ping with no other one outstanding before it (`pingedAt_cases`).
-/

namespace FillFeed.Keepalive

/-- What concerns a keepalive: something is heard, the interval is over and an action is taken, or a
ping was sent. -/
inductive Pulse where
  | heard (now : Duration)
  | ticked (now : Duration) (action : Action)
  | pinged (now : Duration)

/-- The time of a pulse. -/
def Pulse.time : Pulse → Duration
  | .heard now | .ticked now _ | .pinged now => now

/-- A keepalive after one pulse. -/
def meet (k : Keepalive) : Pulse → Keepalive
  | .heard now => k.heard now
  | .ticked _ _ => k
  | .pinged now => k.pinged now

/-- A keepalive after a record. -/
def after (k : Keepalive) (ps : List Pulse) : Keepalive := ps.foldl meet k

/-- An action is the one that is decided on. -/
def Pulse.Fits (plan : Plan) (k : Keepalive) : Pulse → Prop
  | .ticked now action => action = k.tick plan now
  | .heard _ | .pinged _ => True

/-- A record in which every action is the one that is decided on. -/
def Kept (plan : Plan) : Keepalive → List Pulse → Prop
  | _, [] => True
  | k, p :: ps => p.Fits plan k ∧ Kept plan (k.meet p) ps

/-- The times of a record do not decrease. -/
def InOrder (ps : List Pulse) : Prop := ps.Pairwise fun a p => a.time.nanos ≤ p.time.nanos

/-- Nothing is heard in a record. -/
def Quiet (ps : List Pulse) : Prop := ∀ now, .heard now ∉ ps

/-- A ping was sent since which nothing was heard. -/
def Outstanding (sent : Duration) (ps : List Pulse) : Prop :=
  ∃ before later, ps = before ++ .pinged sent :: later ∧ Quiet later

/-- The earliest ping since which nothing was heard. -/
structure Earliest (sent : Duration) (ps : List Pulse) : Prop where
  outstanding : Outstanding sent ps
  least : ∀ other, Outstanding other ps → sent.nanos ≤ other.nanos

/-- Whenever a ping is sent while no other one is outstanding, something is heard before the
patience is over, unless the record ends before. -/
def Prompt (plan : Plan) (ps : List Pulse) : Prop :=
  ∀ before sent later, ps = before ++ .pinged sent :: later →
    (∀ other, ¬Outstanding other before) →
    (∃ now, .heard now ∈ later ∧ now.nanos < sent.nanos + plan.patience.nanos) ∨
      ∀ p ∈ later, p.time.nanos < sent.nanos + plan.patience.nanos

/-- A number of ticks, one period after the other, each of which leads to a ping at the same time,
while nothing is heard. -/
def pings (begun : Duration) (period : Nat) : Nat → List Pulse
  | 0 => []
  | n + 1 => pings begun period n ++
    [.ticked ⟨begun.nanos + (n + 1) * period⟩ .ping, .pinged ⟨begun.nanos + (n + 1) * period⟩]

section

variable {plan : Plan} {k : Keepalive} {p : Pulse} {ps xs ys : List Pulse}
  {begun now sent silence : Duration} {action : Action}

/-- Two records one after the other are remembered one after the other. -/
lemma after_append : k.after (xs ++ ys) = (k.after xs).after ys := List.foldl_append

/-- Two records are kept together if each is, the second one from where the first one ends. -/
lemma kept_append : Kept plan k (xs ++ ys) ↔ Kept plan k xs ∧ Kept plan (k.after xs) ys := by
  induction xs generalizing k with
  | nil => simp [Kept, after]
  | cons p xs ih =>
    rw [List.cons_append, Kept, Kept, ih, and_assoc]
    rfl

/-- The action at a tick of a record that is kept is the one that is decided on there. -/
lemma Kept.action_eq {later : List Pulse} (kept : Kept plan k (ps ++ .ticked now action :: later)) :
    action = (k.after ps).tick plan now :=
  (kept_append.1 kept).2.1

/-- A server is given up at a tick if and only if the ping that is remembered is old enough. -/
lemma tick_eq_giveUp_iff :
    k.tick plan now = .giveUp silence ↔
      ∃ sent, k.pingedAt = some sent ∧ plan.patience.nanos ≤ now.nanos - sent.nanos ∧
        silence = between sent now := by
  unfold tick
  cases k.pingedAt with
  | none => simp
  | some sent =>
    dsimp only
    split
    · rename_i late
      constructor
      · intro same
        cases same
        exact ⟨sent, rfl, late, rfl⟩
      · rintro ⟨sent, same, -, rfl⟩
        cases same
        rfl
    · rename_i early
      refine iff_of_false nofun ?_
      rintro ⟨sent, same, late, -⟩
      cases same
      exact early late

/-- Two records together are quiet if both are. -/
lemma quiet_append : Quiet (xs ++ ys) ↔ Quiet xs ∧ Quiet ys := by
  simp only [Quiet, List.mem_append, not_or, forall_and]

/-- A ping is outstanding after two records if it is after the second one, or if it is after the
first one and nothing is heard in the second one. -/
lemma outstanding_append :
    Outstanding sent (xs ++ ys) ↔ Outstanding sent ys ∨ (Outstanding sent xs ∧ Quiet ys) := by
  constructor
  · rintro ⟨before, later, split, quiet⟩
    obtain ⟨mid, rfl, rest⟩ | ⟨mid, rfl, rest⟩ := List.append_eq_append_iff.1 split
    · exact .inl ⟨mid, later, rest, quiet⟩
    · cases mid with
      | nil => exact .inl ⟨[], later, rest.symm, quiet⟩
      | cons p mid =>
        cases rest
        obtain ⟨first, second⟩ := quiet_append.1 quiet
        exact .inr ⟨⟨before, mid, rfl, first⟩, second⟩
  · rintro (⟨before, later, rfl, quiet⟩ | ⟨⟨before, later, rfl, quiet⟩, more⟩)
    · exact ⟨xs ++ before, later, by simp, quiet⟩
    · exact ⟨before, later ++ ys, by simp, quiet_append.2 ⟨quiet, more⟩⟩

/-- After a single pulse the ping that it is is outstanding, and no other. -/
lemma outstanding_singleton : Outstanding sent [p] ↔ p = .pinged sent := by
  constructor
  · rintro ⟨before, later, split, -⟩
    cases before with
    | nil => exact (List.cons.inj split).1
    | cons _ before => simp at split
  · rintro rfl
    exact ⟨[], [], rfl, nofun⟩

/-- The keepalive of a connection remembers the first ping since which nothing was heard, if there
is one. -/
lemma pingedAt_cases (begun : Duration) (ps : List Pulse) :
    (((start begun).after ps).pingedAt = none ∧ ∀ sent, ¬Outstanding sent ps) ∨
      ∃ before sent later, ((start begun).after ps).pingedAt = some sent ∧
        ps = before ++ .pinged sent :: later ∧ (∀ other, ¬Outstanding other before) ∧
        Quiet later := by
  -- what was heard last decides, so that the record is built up to its end
  induction ps using List.reverseRecOn with
  | nil =>
    refine .inl ⟨rfl, ?_⟩
    rintro sent ⟨before, later, split, -⟩
    simp at split
  | append_singleton ps p ih =>
    rw [after_append]
    cases p with
    | heard now =>
      refine .inl ⟨rfl, ?_⟩
      intro sent outstanding
      obtain here | ⟨-, quiet⟩ := outstanding_append.1 outstanding
      · cases outstanding_singleton.1 here
      · exact quiet now (by simp)
    | ticked now action =>
      obtain ⟨none, free⟩ | ⟨before, sent, later, some, rfl, free, quiet⟩ := ih
      · refine .inl ⟨none, ?_⟩
        intro sent outstanding
        obtain here | ⟨there, -⟩ := outstanding_append.1 outstanding
        · cases outstanding_singleton.1 here
        · exact free sent there
      · exact .inr ⟨before, sent, later ++ [.ticked now action], some, by simp, free,
          quiet_append.2 ⟨quiet, by simp [Quiet]⟩⟩
    | pinged now =>
      have marked : (((start begun).after ps).after [.pinged now]).pingedAt =
          some (((start begun).after ps).pingedAt.getD now) := rfl
      obtain ⟨none, free⟩ | ⟨before, sent, later, some, rfl, free, quiet⟩ := ih
      · refine .inr ⟨ps, now, [], ?_, rfl, free, nofun⟩
        rw [marked, none, Option.getD_none]
      · refine .inr ⟨before, sent, later ++ [.pinged now], ?_, by simp, free,
          quiet_append.2 ⟨quiet, by simp [Quiet]⟩⟩
        rw [marked, some, Option.getD_some]

/-- What comes later in a record that is in order has a time that is no less. -/
lemma InOrder.le_of_split {before later : List Pulse}
    (ordered : InOrder (before ++ p :: later)) {other : Pulse} (mem : other ∈ later) :
    p.time.nanos ≤ other.time.nanos :=
  (List.pairwise_cons.1 (List.pairwise_append.1 ordered).2.1).1 other mem

/-- The times of the first part of a record in order are no later than those of the rest. -/
lemma InOrder.before_le {later : List Pulse} (ordered : InOrder (ps ++ later)) {a : Pulse}
    (earlier : a ∈ ps) (mem : p ∈ later) : a.time.nanos ≤ p.time.nanos :=
  (List.pairwise_append.1 ordered).2.2 a earlier p mem

/-- Where times do not decrease, the first outstanding ping is the earliest one. -/
lemma earliest_of_first {before later : List Pulse}
    (ordered : InOrder (before ++ .pinged sent :: later))
    (free : ∀ other, ¬Outstanding other before) (quiet : Quiet later) :
    Earliest sent (before ++ .pinged sent :: later) := by
  refine ⟨⟨before, later, rfl, quiet⟩, ?_⟩
  intro other outstanding
  obtain ⟨first, second, split, -⟩ | ⟨there, -⟩ := outstanding_append.1 outstanding
  · have mem : .pinged other ∈ .pinged sent :: later := by simp [split]
    obtain here | beyond := List.mem_cons.1 mem
    · cases here
      exact le_refl _
    · exact ordered.le_of_split beyond
  · exact absurd there (free other)

/-- There is at most one earliest ping. -/
lemma Earliest.unique {other : Duration} (earliest : Earliest sent ps)
    (earliest' : Earliest other ps) : sent = other := by
  have le := earliest.least other earliest'.outstanding
  have ge := earliest'.least sent earliest.outstanding
  cases sent
  cases other
  exact congrArg Duration.mk (le_antisymm le ge)

/-- The keepalive remembers the earliest outstanding ping. -/
lemma pingedAt_iff (ordered : InOrder ps) :
    ((start begun).after ps).pingedAt = some sent ↔ Earliest sent ps := by
  obtain ⟨none, free⟩ | ⟨before, first, later, some, rfl, free, quiet⟩ := pingedAt_cases begun ps
  · refine iff_of_false (by simp [none]) ?_
    intro earliest
    exact free sent earliest.outstanding
  · have earliest := earliest_of_first ordered free quiet
    rw [some, Option.some.injEq]
    constructor
    · rintro rfl
      exact earliest
    · exact earliest.unique

/-- A server is given up when the earliest outstanding ping is old enough. -/
lemma Kept.giveUp_iff {later : List Pulse}
    (kept : Kept plan (start begun) (ps ++ .ticked now action :: later))
    (ordered : InOrder (ps ++ .ticked now action :: later)) :
    action = .giveUp silence ↔
      ∃ sent, Earliest sent ps ∧ plan.patience.nanos ≤ silence.nanos ∧
        now.nanos = sent.nanos + silence.nanos := by
  have sooner : InOrder ps := (List.pairwise_append.1 ordered).1
  rw [kept.action_eq, tick_eq_giveUp_iff]
  refine exists_congr fun sent => ?_
  rw [pingedAt_iff sooner]
  refine and_congr_right fun earliest => ?_
  obtain ⟨first, second, rfl, -⟩ := earliest.outstanding
  -- the ping was not sent after the tick, and the time between them is their difference
  have le : sent.nanos ≤ now.nanos :=
    ordered.before_le (a := .pinged sent) (by simp) (List.mem_cons_self ..)
  obtain ⟨silence⟩ := silence
  simp only [between, Duration.mk.injEq]
  omega

/-- A server that answers in time is not given up. -/
lemma Kept.ne_giveUp_of_prompt (kept : Kept plan (start begun) ps) (ordered : InOrder ps)
    (prompt : Prompt plan ps) : .ticked now (.giveUp silence) ∉ ps := by
  intro mem
  obtain ⟨before, later, rfl⟩ := List.append_of_mem mem
  obtain ⟨sent, pinged, late, -⟩ := tick_eq_giveUp_iff.1 kept.action_eq.symm
  obtain ⟨none, -⟩ | ⟨first, sent', rest, some, rfl, free, quiet⟩ := pingedAt_cases begun before
  · cases none.symm.trans pinged
  · cases some.symm.trans pinged
    have le : sent.nanos ≤ now.nanos :=
      ordered.before_le (a := .pinged sent) (by simp) (List.mem_cons_self ..)
    obtain ⟨heardAt, heard, soon⟩ | soon :=
      prompt first sent (rest ++ .ticked now (.giveUp silence) :: later) (by simp) free
    · -- it is heard after the tick, and thus too late
      obtain before | since := List.mem_append.1 heard
      · exact quiet heardAt before
      · obtain here | after := List.mem_cons.1 since
        · cases here
        · have ge : now.nanos ≤ heardAt.nanos := ordered.le_of_split after
          omega
    · have early : now.nanos < sent.nanos + plan.patience.nanos :=
        soon (.ticked now (.giveUp silence)) (by simp)
      omega

/-- Of the pings to a silent server the first one is remembered. -/
lemma pingedAt_pings (begun : Duration) (period n : Nat) :
    ((start begun).after (pings begun period (n + 1))).pingedAt =
      some ⟨begun.nanos + period⟩ := by
  induction n with
  | zero => simp [pings, after, meet, pinged, start]
  | succ n ih =>
    rw [pings, after_append]
    show some (((start begun).after (pings begun period (n + 1))).pingedAt.getD _) = _
    rw [ih, Option.getD_some]

/-- What is done at the next tick when a server has been silent for some ticks. -/
lemma tick_pings (plan : Plan) (begun : Duration) (period n : Nat) :
    ((start begun).after (pings begun period n)).tick plan ⟨begun.nanos + (n + 1) * period⟩ =
      if n = 0 ∨ n * period < plan.patience.nanos then .ping else .giveUp ⟨n * period⟩ := by
  cases n with
  | zero => rfl
  | succ n =>
    have since : begun.nanos + (n + 1 + 1) * period - (begun.nanos + period) =
        (n + 1) * period := by
      rw [Nat.succ_mul (n + 1)]
      omega
    rw [tick, pingedAt_pings]
    simp only [between, since, Nat.add_one_ne_zero, false_or, ← not_le, ite_not]

/-- Pings to a silent server are what is decided on as long as its patience lasts. -/
lemma kept_pings {period n : Nat} :
    Kept plan (start begun) (pings begun period n) ↔
      ∀ i, 0 < i → i < n → i * period < plan.patience.nanos := by
  induction n with
  | zero => simp [pings, Kept]
  | succ n ih =>
    have last : (Action.ping = if n = 0 ∨ n * period < plan.patience.nanos then .ping
        else .giveUp ⟨n * period⟩) ↔ n = 0 ∨ n * period < plan.patience.nanos := by
      split <;> simp_all
    rw [pings, kept_append, ih, Kept, Kept, Kept, Pulse.Fits, Pulse.Fits, tick_pings, last]
    constructor
    · rintro ⟨before, here, -⟩ i positive less
      obtain less | rfl := Nat.lt_succ_iff_lt_or_eq.1 less
      · exact before i positive less
      · exact here.resolve_left positive.ne'
    · intro all
      have before (i : Nat) (positive : 0 < i) (less : i < n) :=
        all i positive (less.trans n.lt_succ_self)
      refine ⟨before, ?_, trivial, trivial⟩
      obtain rfl | positive := n.eq_zero_or_pos
      · exact .inl rfl
      · exact .inr (all n positive n.lt_succ_self)

/-- The number of periods after which some time is over, at least one. -/
lemma eq_max_one_ceilDiv_iff {patience period n : Nat} (positive : 0 < period) :
    n = max 1 (patience ⌈/⌉ period) ↔
      (0 < n ∧ patience ≤ n * period) ∧ ∀ i, 0 < i → i < n → i * period < patience := by
  have reached (i : Nat) : patience ⌈/⌉ period ≤ i ↔ patience ≤ i * period := by
    rw [ceilDiv_le_iff_le_mul positive, Nat.mul_comm]
  have unreached (i : Nat) : i * period < patience ↔ i < patience ⌈/⌉ period :=
    lt_iff_lt_of_le_iff_le (reached i).symm
  simp only [← reached, unreached]
  constructor
  · intro same
    refine ⟨by omega, ?_⟩
    intro i _ less
    omega
  · rintro ⟨⟨some, enough⟩, fewer⟩
    have less := fewer (n - 1)
    omega

/-- When a silent server is given up, given that the pings go out at the ticks. -/
lemma kept_pings_giveUp {period n : Nat} (positive : 0 < period) :
    Kept plan (start begun) (pings begun period n ++
        [.ticked ⟨begun.nanos + (n + 1) * period⟩ (.giveUp silence)]) ↔
      n + 1 = 1 + max 1 (plan.patience.nanos ⌈/⌉ period) ∧ silence.nanos = n * period := by
  have last : (Action.giveUp silence = if n = 0 ∨ n * period < plan.patience.nanos then .ping
      else .giveUp ⟨n * period⟩) ↔
        (0 < n ∧ plan.patience.nanos ≤ n * period) ∧ silence.nanos = n * period := by
    obtain ⟨silence⟩ := silence
    split <;> simp <;> omega
  rw [kept_append, kept_pings, Kept, Kept, Pulse.Fits, tick_pings, last, Nat.add_comm n 1,
    Nat.add_left_cancel_iff, eq_max_one_ceilDiv_iff positive]
  tauto

end

end FillFeed.Keepalive

namespace FillFeed.Client.Listen

open Keepalive (Pulse)

/-- The keepalive of a listener in its loop. -/
def keepalive? : Listen → Option Keepalive
  | .polling _ k | .pinging _ k | .echoing _ k | .handling _ k _ => some k
  | _ => none

/-- A listener whose ping is on its way. -/
def Pings : Listen → Prop
  | .pinging _ _ => True
  | _ => False

/-- What a deed of a listener means for its keepalive: it hears something, it pings or gives up when
the interval is over, or its ping was sent. -/
def pulse? (d : Deed Listen) : Option Pulse :=
  match d.stood, d.met, d.goes with
  | .polling _ _, .reply (.received (.ok (some _))) now, _ => some (.heard now)
  | .polling _ _, .tick now, .pinging _ _ => some (.ticked now .ping)
  | .polling _ _, .tick now, .closing _ (.error (.keepaliveTimeout silence)) =>
    some (.ticked now (.giveUp silence))
  | .pinging _ _, .reply (.sent (.ok ())) now, _ => some (.pinged now)
  | _, _, _ => none

/-- The record of some deeds. -/
def pulses (ds : List (Deed Listen)) : List Pulse := ds.filterMap pulse?

/-- A ping is noted as sent after the tick that leads to it, and only there. -/
def Notes (a p : Pulse) : Prop := (∃ now, a = .ticked now .ping) ↔ ∃ now, p = .pinged now

/-- A listener with a record in which every action is the one that is decided on and every ping is
noted, and which remembers what the record says. -/
structure Tracks (plan : Keepalive.Plan) (begun : Duration) (ps : List Pulse) (l : Listen) :
    Prop where
  kept : Keepalive.Kept plan (.start begun) ps
  noted : (.heard begun :: ps).IsChain Notes
  keepalive_eq : ∀ k, l.keepalive? = some k → k = (Keepalive.start begun).after ps
  pings_iff : l.keepalive?.isSome →
    (l.Pings ↔ ∃ now, (.heard begun :: ps).getLast? = some (.ticked now .ping))
  place : l.keepalive?.isSome ∨ Over l

section

variable {cfg : Config} {plan : Keepalive.Plan} {begun : Duration} {ps : List Pulse} {p : Pulse}
  {k : Keepalive} {l next : Listen} {d : Deed Listen} {ds : List (Deed Listen)} {s : Session}

/-- Behind the loop there is no keepalive. -/
lemma Over.keepalive?_eq_none (past : Over l) : l.keepalive? = none := by
  cases past <;> rfl

/-- A listener that leaves its loop keeps its record. -/
lemma Tracks.stop (tracks : Tracks plan begun ps l) (past : Over next) :
    Tracks plan begun ps next := by
  have none := past.keepalive?_eq_none
  exact ⟨tracks.kept, tracks.noted, by simp [none], by simp [none], .inr past⟩

/-- A listener that goes on with the keepalive that it has keeps its record. -/
lemma Tracks.stay (tracks : Tracks plan begun ps l) (keeps : l.keepalive? = some k)
    (idle : ¬l.Pings) (keeps' : next.keepalive? = some k) (idle' : ¬next.Pings) :
    Tracks plan begun ps next := by
  refine ⟨tracks.kept, tracks.noted, ?_, ?_, .inl (by simp [keeps'])⟩
  · intro k' same
    cases keeps'.symm.trans same
    exact tracks.keepalive_eq k keeps
  · intro _
    rw [← tracks.pings_iff (by simp [keeps])]
    exact iff_of_false idle' idle

/-- A pulse that fits is entered in the record; it is the note of a ping just when one was sent. -/
lemma Tracks.enter (tracks : Tracks plan begun ps l) (keeps : l.keepalive? = some k)
    (fits : p.Fits plan k) (notes : l.Pings ↔ ∃ now, p = .pinged now)
    (keeps' : ∀ k', next.keepalive? = some k' → k' = k.meet p)
    (pings : next.keepalive?.isSome → (next.Pings ↔ ∃ now, p = .ticked now .ping))
    (place : next.keepalive?.isSome ∨ Over next) : Tracks plan begun (ps ++ [p]) next := by
  have remembers := tracks.keepalive_eq k keeps
  subst remembers
  constructor
  case kept => exact Keepalive.kept_append.2 ⟨tracks.kept, fits, trivial⟩
  case noted =>
    -- whether a ping is to be noted next is where the listener is
    rw [← List.cons_append, List.isChain_append]
    refine ⟨tracks.noted, .singleton p, ?_⟩
    intro last isLast p' isFirst
    cases isFirst
    rw [Notes, ← notes, tracks.pings_iff (by simp [keeps]), isLast]
    simp
  case keepalive_eq =>
    intro k' same
    rw [keeps' k' same, Keepalive.after_append]
    rfl
  case pings_iff =>
    intro some
    rw [pings some, ← List.cons_append, List.getLast?_append]
    simp
  case place => exact place

/-- A listener that hears something enters this in its record. -/
lemma Tracks.hear {now : Duration} (tracks : Tracks plan begun ps (.polling s k))
    (goes : next.keepalive? = some (k.heard now)) (idle : ¬next.Pings) :
    Tracks plan begun (ps ++ [.heard now]) next := by
  refine tracks.enter rfl trivial (iff_of_false id nofun) ?_ ?_ (.inl (by simp [goes]))
  · intro k' same
    cases goes.symm.trans same
    rfl
  · exact fun _ => iff_of_false idle nofun

/-- What a listener does is entered in its record. -/
lemma Valid.tracks (valid : Valid cfg d) (tracks : Tracks cfg.keepalive begun ps d.stood) :
    Tracks cfg.keepalive begun (ps ++ (pulse? d).toList) d.goes := by
  obtain inLoop | past := tracks.place
  · obtain ⟨k, keeps⟩ := Option.isSome_iff_exists.1 inLoop
    obtain ⟨found, stood, met, left, goes, did⟩ := d
    have st := valid.step
    dsimp only at keeps st tracks ⊢
    cases stood with
    | polling s k' =>
      cases keeps
      cases st with
      | cancelled | ended | unreceived => simpa [pulse?] using tracks.stop .closing
      | @pinging _ _ now due =>
        refine tracks.enter rfl due.symm (iff_of_false id nofun) ?_ ?_ (.inl rfl)
        · rintro k' ⟨⟩
          rfl
        · exact fun _ => iff_of_true trivial ⟨now, rfl⟩
      | silent late =>
        exact tracks.enter rfl late.symm (iff_of_false id nofun) nofun nofun (.inr .closing)
      | ponged | skipped | echoing | controlled | handling => exact tracks.hear rfl id
    | pinging s k' =>
      cases keeps
      cases st with
      | @pinged _ _ now =>
        refine tracks.enter rfl trivial (iff_of_true trivial ⟨now, rfl⟩) ?_ ?_ (.inl rfl)
        · rintro k' ⟨⟩
          rfl
        · exact fun _ => iff_of_false id nofun
      | unpinged => simpa [pulse?] using tracks.stop .closing
    | echoing s k' =>
      cases keeps
      cases st with
      | echoed => simpa [pulse?] using tracks.stay rfl id rfl id
      | unechoed => simpa [pulse?] using tracks.stop .closing
    | handling s k' fill =>
      cases keeps
      cases st <;> simpa [pulse?] using tracks.stay rfl id rfl id
    | _ => cases keeps
  · obtain ⟨t, result, stood, goes, -⟩ := Valid.goes_of_over valid past
    have none : pulse? d = none := by simp [pulse?, stood]
    rw [none, Option.toList_none, List.append_nil, goes]
    exact tracks.stop .finished

/-- What a listener does in a run is entered in its record. -/
lemma Course.tracks (run : Course cfg l ds next) (tracks : Tracks cfg.keepalive begun [] l) :
    Tracks cfg.keepalive begun (pulses ds) next := by
  induction run with
  | refl => exact tracks
  | @tail ds d _ valid ih =>
    have entered : pulses (ds ++ [d]) = pulses ds ++ (pulse? d).toList := by
      cases e : pulse? d <;> simp [pulses, e]
    rw [entered]
    exact Valid.tracks valid ih

/-- Every deed of a run is one that listening does. -/
lemma Course.valid (run : Course cfg l ds next) : ∀ d ∈ ds, Valid cfg d := by
  induction run with
  | refl => simp
  | tail _ valid ih =>
    intro d mem
    obtain before | here := List.mem_append.1 mem
    · exact ih d before
    · cases List.mem_singleton.1 here
      exact valid

/-- A tick in the loop has an action. -/
lemma Valid.ticked {now : Duration} (valid : Valid cfg d) (stood : d.stood = .polling s k)
    (met : d.met = .tick now) : ∃ action, pulse? d = some (.ticked now action) := by
  obtain ⟨found, at', met', left, goes, did⟩ := d
  have st := valid.step
  dsimp only at stood met st
  subst stood met
  cases st with
  | pinging => exact ⟨.ping, rfl⟩
  | silent => exact ⟨.giveUp _, rfl⟩

/-- A listener ends for a silent server if and only if its deed gives the server up, after the same
silence. -/
lemma Valid.timedOut_iff {silence : Duration} (valid : Valid cfg d) :
    (∃ t, d.goes = .closing t (.error (.keepaliveTimeout silence))) ↔
      ∃ now, pulse? d = some (.ticked now (.giveUp silence)) := by
  constructor
  · rintro ⟨t, ends⟩
    obtain ⟨found, stood, met, left, goes, did⟩ := d
    have st := valid.step
    dsimp only at ends st
    subst ends
    generalize e : (⟨left, _, did⟩ : Outcome) = o at st
    cases st with
    | silent => cases e; exact ⟨_, rfl⟩
    | closed | closedLate => cases (congrArg Outcome.next e).trans conclude_next
    | _ => cases e
  · rintro ⟨now, pulse⟩
    unfold pulse? at pulse
    split at pulse
    · cases pulse
    · cases pulse
    · rename_i goes
      cases pulse
      exact ⟨_, goes⟩
    · cases pulse
    · cases pulse

end

/-- What the record of a listener is of its deeds: every tick in the loop is in it with the action
that is taken, and that the server is given up is in it just when the listener ends for this
reason. -/
structure Records (cfg : Config) (begun : Duration) (ds : List (Deed Listen)) : Prop where
  kept : Keepalive.Kept cfg.keepalive (.start begun) (pulses ds)
  noted : (.heard begun :: pulses ds).IsChain Notes
  ticked : ∀ d ∈ ds, ∀ s k now, d.stood = .polling s k → d.met = .tick now →
    ∃ action, pulse? d = some (.ticked now action)
  timedOut_iff : ∀ d ∈ ds, ∀ silence,
    (∃ t, d.goes = .closing t (.error (.keepaliveTimeout silence))) ↔
      ∃ now, pulse? d = some (.ticked now (.giveUp silence))

/-- A listener that sets out for its loop keeps a record from then on. -/
lemma Course.records {cfg : Config} {s : Session} {first : Deed Listen} {ds : List (Deed Listen)}
    {l : Listen} (run : Course cfg (.starting s) (first :: ds) l) :
    ∃ begun, first.met = .tick begun ∧ Records cfg begun ds := by
  obtain ⟨place, valid, rest⟩ := Client.Course.head run
  have others := Course.valid rest
  obtain ⟨found, stood, met, left, goes, did⟩ := first
  have st := valid.step
  dsimp only at place st rest ⊢
  subst place
  have recorded {begun : Duration} (tracks : Tracks cfg.keepalive begun [] goes) :
      Records cfg begun ds := by
    have tracked := Course.tracks rest tracks
    exact ⟨tracked.kept, tracked.noted, fun d mem _ _ _ => (others d mem).ticked,
      fun d mem _ => (others d mem).timedOut_iff⟩
  cases st with
  | @crashed _ now =>
    exact ⟨now, rfl, recorded ⟨trivial, .singleton _, nofun, nofun, .inr .crashed⟩⟩
  | @started _ now =>
    refine ⟨now, rfl, recorded ⟨trivial, .singleton _, ?_, ?_, .inl rfl⟩⟩
    · rintro k ⟨⟩
      rfl
    · exact fun _ => iff_of_false id (by simp)

/-- A record whose times do not decrease gives a server up at a tick if and only if some ping is
outstanding, and the earliest one has been for the patience; what is told is for how long. A server
that answers in time is never given up, and one that is silent from the start is given up at a tick
that can be computed from the patience and the period. The record of every listener is of this
kind. -/
theorem silent_server_given_up (cfg : Config) :
    (∀ begun ps, Keepalive.Kept cfg.keepalive (.start begun) ps → Keepalive.InOrder ps →
      (∀ before now action later silence, ps = before ++ .ticked now action :: later →
        (action = .giveUp silence ↔ ∃ sent, Keepalive.Earliest sent before ∧
          cfg.keepalive.patience.nanos ≤ silence.nanos ∧
            now.nanos = sent.nanos + silence.nanos)) ∧
      (Keepalive.Prompt cfg.keepalive ps → ∀ now silence, .ticked now (.giveUp silence) ∉ ps)) ∧
    (∀ begun period n silence, 0 < period →
      (Keepalive.Kept cfg.keepalive (.start begun) (Keepalive.pings begun period n ++
          [.ticked ⟨begun.nanos + (n + 1) * period⟩ (.giveUp silence)]) ↔
        n + 1 = 1 + max 1 (cfg.keepalive.patience.nanos ⌈/⌉ period) ∧
          silence.nanos = n * period)) ∧
    ∀ s first ds l, Course cfg (.starting s) (first :: ds) l →
      ∃ begun, first.met = .tick begun ∧ Records cfg begun ds := by
  refine ⟨?_, ?_, ?_⟩
  · intro begun ps kept ordered
    refine ⟨?_, ?_⟩
    · rintro before now action later silence rfl
      exact kept.giveUp_iff ordered
    · exact fun prompt now silence => kept.ne_giveUp_of_prompt ordered prompt
  · exact fun begun period n silence => Keepalive.kept_pings_giveUp
  · exact fun s first ds l => Course.records

/-- A listener whose server answers the first ping and not the second one. -/
def sampleQuiet : List (Deed Listen) × Listen :=
  replay (deed? (Config.of "ws://feed" [])) Shared.initial
    (.starting ⟨1, Codec.ofSubscriptions []⟩)
    [.tick ⟨0⟩, .tick (.ofSecs 30), .reply (.sent (.ok ())) (.ofSecs 30),
      .reply (.received (.ok (some .pong))) (.ofSecs 31), .tick (.ofSecs 60),
      .reply (.sent (.ok ())) (.ofSecs 61), .tick (.ofSecs 91)]

/-- The record of the sample up to the answer to the first ping. -/
def sampleAnswered : List Pulse :=
  [.ticked (.ofSecs 30) .ping, .pinged (.ofSecs 30), .heard (.ofSecs 31)]

/-- The record of the sample after that, up to its last tick. -/
def sampleUnanswered : List Pulse := [.ticked (.ofSecs 60) .ping, .pinged (.ofSecs 61)]

/-- The server of the sample is given up for its second ping and not before; and one that is silent
from the start, while the ticks are twenty seconds apart, at the third tick. -/
theorem sampleQuiet_given_up :
    sampleQuiet.2 = .closing 1 (.error (.keepaliveTimeout (.ofSecs 30))) ∧
      pulses sampleQuiet.1.tail = sampleAnswered ++ sampleUnanswered ++
        [.ticked (.ofSecs 91) (.giveUp (.ofSecs 30))] ∧
      (∃ sent, Keepalive.Earliest sent (sampleAnswered ++ sampleUnanswered) ∧
        (Duration.ofSecs 91).nanos = sent.nanos + (Duration.ofSecs 30).nanos) ∧
      (∀ now silence, .ticked now (.giveUp silence) ∉ sampleAnswered) ∧
      Keepalive.Kept Keepalive.Plan.default (.start ⟨0⟩)
        (Keepalive.pings ⟨0⟩ 20000000000 2 ++
          [.ticked (.ofSecs 60) (.giveUp (.ofSecs 40))]) := by
  have run : Course (Config.of "ws://feed" []) (.starting ⟨1, Codec.ofSubscriptions []⟩)
      sampleQuiet.1 sampleQuiet.2 :=
    .of_replay (fun _ _ _ _ => valid_of_deed?) _ _ _
  have record : pulses sampleQuiet.1.tail = sampleAnswered ++ sampleUnanswered ++
      [.ticked (.ofSecs 91) (.giveUp (.ofSecs 30))] := by rfl
  obtain ⟨givenUp, silent, records⟩ := silent_server_given_up (Config.of "ws://feed" [])
  obtain ⟨begun, -, kept⟩ := records _ _ _ _ run
  have all : Keepalive.Kept Keepalive.Plan.default (.start begun) (pulses sampleQuiet.1.tail) :=
    kept.kept
  rw [record] at all
  have ordered : Keepalive.InOrder (sampleAnswered ++ sampleUnanswered ++
      [.ticked (.ofSecs 91) (.giveUp (.ofSecs 30))]) := by
    simp [sampleAnswered, sampleUnanswered, Keepalive.InOrder, Pulse.time, Duration.ofSecs]
  obtain ⟨sent, earliest, -, since⟩ :=
    ((givenUp begun _ all ordered).1 _ _ _ [] _ rfl).1 rfl
  have answered := (Keepalive.kept_append.1 (Keepalive.kept_append.1 all).1).1
  have orderly : Keepalive.InOrder sampleAnswered :=
    (List.pairwise_append.1 (List.pairwise_append.1 ordered).1).1
  have prompt : Keepalive.Prompt Keepalive.Plan.default sampleAnswered := by
    intro before sent later split _
    rcases before with _ | ⟨_, _ | ⟨_, _ | ⟨_, before⟩⟩⟩
    · cases split
    · cases split
      exact .inl ⟨.ofSecs 31, List.mem_cons_self .., by decide⟩
    · cases split
    · simp [sampleAnswered] at split
  exact ⟨by rfl, record, ⟨sent, earliest, since⟩, (givenUp begun _ answered orderly).2 prompt,
    (silent ⟨0⟩ 20000000000 2 (.ofSecs 40) (by decide)).2 ⟨by rfl, by rfl⟩⟩

end FillFeed.Client.Listen
