import Mathlib
import FillFeed.Proofs.Handshake.Verdict
import FillFeed.Proofs.Task.Sessions

/-!
# Contexts of a connection

A listener decrypts what it takes from its transport with the contexts of its session, and these
come from the acks that were read on this transport: `System.Owns` says which ack gave the context
of which stream. `System.contexts_of_connection` says that this holds in every run of a client for
whatever session is parked or listened to, however many attempts, connections and sessions there
were before, and that no fill is read in any other way.
-/

namespace FillFeed

/-- The material of an ack that is accepted is the key and the vector of the context. -/
lemma Ack.of_validate {streamId raw : String} {context : Cipher.Context}
    (valid : Ack.validate streamId raw = .ok context) :
    ∃ ack key iv, Ack.read? raw = some ack ∧ ack.keyIv? = some (key, iv) ∧
      context.key = Utf8.encode key ∧ context.iv = Utf8.encode iv := by
  cases read : read? raw with
  | none =>
    rw [validate_of_unread read] at valid
    cases valid
  | some ack =>
    rw [validate_of_read? read] at valid
    obtain ⟨key, iv, confirms, keyed, vectored⟩ := check_eq_ok_iff.1 valid
    have material := keyIv?_eq_some_iff.2 ⟨confirms.output, confirms.given⟩
    exact ⟨ack, key, iv, rfl, material, keyed, vectored⟩

namespace Client

namespace Exchange

variable {subscriptions : List Subscription} {id : String}

/-- A stream has a context when some subscription to it was confirmed. -/
lemma isSome_context? (xs : List Exchange) :
    ((codec subscriptions xs).context? id).isSome = true ↔
      id ∈ xs.map (·.subscription.streamId) := by
  induction xs using List.reverseRecOn with
  | nil => simp [codec]
  | append_singleton xs x ih =>
    rw [codec_concat, Codec.context?_register]
    split
    · rename_i same
      simp [same]
    · rename_i other
      rw [ih]
      simp [other]

/-- The context of a stream is the one of the last subscription to it that was confirmed. -/
lemma context?_eq (us : List Exchange) (x : Exchange) (vs : List Exchange)
    (last : x.subscription.streamId ∉ vs.map (·.subscription.streamId)) :
    (codec subscriptions (us ++ x :: vs)).context? x.subscription.streamId = some x.context := by
  induction vs using List.reverseRecOn with
  | nil => rw [codec_concat, Codec.context?_register, if_pos rfl]
  | append_singleton vs v ih =>
    rw [List.map_append, List.mem_append, not_or] at last
    have other : x.subscription.streamId ≠ v.subscription.streamId := by simpa using last.2
    rw [← List.cons_append, ← List.append_assoc, codec_concat, Codec.context?_register,
      if_neg other]
    exact ih last.1

end Exchange

section

variable {cfg : Config} {shared : Shared} {h : Happening}

/-- A listener that takes a frame hands on what the codec of its session reads from it. -/
lemma Listen.Step.fills {l : Listen} {o : Listen.Outcome} {s : Session} {t : TransportId}
    {frame : WireFrame} (st : Listen.Step cfg shared l h o) (serves : Serves s l)
    (took : .took t frame ∈ o.effects) :
    o.effects.filterMap Effect.handled? = (s.codec.fill? frame).toList := by
  cases serves with
  | starting => cases st <;> simp at took
  | polling =>
    cases st with
    | ponged =>
      -- a pong carries nothing that could be decoded
      simp only [List.mem_cons, Effect.took.injEq, reduceCtorEq, List.not_mem_nil, or_false] at took
      rw [took.2]
      rfl
    | skipped bytes parsed | echoing bytes parsed | controlled bytes parsed
    | handling bytes parsed =>
      simp only [List.mem_cons, Effect.took.injEq, reduceCtorEq, List.not_mem_nil, or_false] at took
      simp [List.filterMap_cons, Effect.handled?, took.2, Codec.fill?, Codec.frame?_of_bytes bytes,
        parsed, Frame.fill?]
    | _ => simp at took
  | pinging => cases st <;> simp at took
  | echoing => cases st <;> simp at took
  | handling => cases st <;> simp at took

/-- A fill is handed over only when a frame is taken. -/
lemma Listen.Step.took_of_handled {l : Listen} {o : Listen.Outcome} {fill : Fill}
    (st : Listen.Step cfg shared l h o) (hands : fill ∈ o.effects.filterMap Effect.handled?) :
    ∃ t frame, .took t frame ∈ o.effects := by
  cases st with
  | handling => exact ⟨_, _, List.mem_cons_self⟩
  | closed =>
    rw [filterMap_conclude (fun _ _ => rfl) (fun _ => rfl) fun _ => rfl,
      filterMap_closeNotices fun _ => rfl] at hands
    cases hands
  | closedLate =>
    rw [filterMap_conclude (fun _ _ => rfl) (fun _ => rfl) fun _ => rfl] at hands
    cases hands
  | _ => cases hands

/-- No fill is handed over while a key is asked for. -/
lemma hands_nothing_of_approval {stage : Approval.Stage} {r : Reply} {p : Approval.Progress}
    {did : List Effect} (st : Approval.Step stage r p did) :
    did.filterMap Effect.handled? = [] := by
  cases st <;> rfl

/-- No fill is handed over in an attempt. -/
lemma Attempt.Step.hands_nothing {a : Attempt} {o : Attempt.Outcome}
    (st : Attempt.Step cfg shared a h o) : o.effects.filterMap Effect.handled? = [] := by
  cases st with
  | obtaining st | unobtained st => exact hands_nothing_of_approval st
  | obtained st =>
    rw [List.filterMap_append, hands_nothing_of_approval st]
    rfl
  | opened =>
    rw [filterMap_subscribe fun _ _ => rfl, List.filterMap_cons_none rfl]
    exact filterMap_setState (fun _ _ => rfl) fun _ => rfl
  | accepted =>
    rw [filterMap_subscribe fun _ _ => rfl]
    rfl
  | abandoned => exact filterMap_closeNotices fun _ => rfl
  | _ => rfl

/-- A call that connects hands no fill over. -/
lemma Connect.Step.hands_nothing {c : Connect} {o : Connect.Outcome}
    (st : Connect.Step cfg shared c h o) : o.effects.filterMap Effect.handled? = [] := by
  cases st with
  | announced | published =>
    rw [List.filterMap_append, filterMap_setState (fun _ _ => rfl) fun _ => rfl]
    rfl
  | @launched retry carried => cases carried <;> rfl
  | attempting st => exact st.hands_nothing
  | succeeded st => exact st.hands_nothing
  | failed st =>
    rw [filterMap_failed (fun _ => rfl) (fun _ => rfl) (fun _ => rfl) rfl]
    exact st.hands_nothing
  | reissuing st | reissued st => exact hands_nothing_of_approval st
  | unreissued st =>
    rw [List.filterMap_append, hands_nothing_of_approval st]
    rfl
  | replaced | discarded => exact filterMap_closeNotices fun _ => rfl
  | _ => rfl

/-- A call that stops the client hands no fill over. -/
lemma Stop.Step.hands_nothing {s : Stop} {o : Stop.Outcome} (st : Stop.Step cfg shared s h o) :
    o.effects.filterMap Effect.handled? = [] := by
  cases st with
  | published =>
    obtain e | e := shared.shutDown_cases
    · rw [e]
      rfl
    · rw [e]
      rfl
  | closed =>
    rw [List.filterMap_append, filterMap_closeNotices fun _ => rfl]
    rfl
  | _ => rfl

/-- Between two attempts of a call no fill is handed over, and no frame is taken. -/
lemma Run.of_listenEffects (l : Listen) (es : List Effect) :
    (es ++ listenEffects l).filterMap Effect.handled? = es.filterMap Effect.handled? ∧
      ∀ t frame, .took t frame ∈ es ++ listenEffects l ↔ .took t frame ∈ es := by
  unfold listenEffects
  split
  · simp [List.filterMap_cons, Effect.handled?]
  · simp

/-- When a frame is taken, what is handed over is the fill that the codec of the session reads from
it, if any. -/
lemma Task.Step.fills {t : Task} {o : Task.Outcome} {s : Session} {tr : TransportId}
    {frame : WireFrame} (st : Task.Step cfg shared t h o) (serves : t.Serves s)
    (took : .took tr frame ∈ o.effects) :
    o.effects.filterMap Effect.handled? = (s.codec.fill? frame).toList := by
  cases st with
  | listen st => exact st.fills serves took
  | run st =>
    cases st with
    | @listening l h o st =>
      obtain ⟨same, frames⟩ := Run.of_listenEffects o.next o.effects
      exact same.trans (st.fills serves ((frames tr frame).1 took))
    | _ => exact serves.elim
  | _ => exact serves.elim

/-- A task hands on a fill only when it listens and takes a frame. -/
lemma Task.Step.took_of_handled {t : Task} {o : Task.Outcome} {fill : Fill}
    (st : Task.Step cfg shared t h o) (hands : fill ∈ o.effects.filterMap Effect.handled?) :
    t.listens = true ∧ ∃ tr frame, .took tr frame ∈ o.effects := by
  cases st with
  | connect st => rw [st.hands_nothing] at hands; cases hands
  | listen st => exact ⟨rfl, st.took_of_handled hands⟩
  | run st =>
    cases st with
    | connecting st => rw [st.hands_nothing] at hands; cases hands
    | @listening l h o st =>
      obtain ⟨same, frames⟩ := Run.of_listenEffects o.next o.effects
      obtain ⟨tr, frame, took⟩ := st.took_of_handled (same ▸ hands)
      exact ⟨rfl, tr, frame, (frames tr frame).2 took⟩
    | _ => cases hands
  | stop st => rw [st.hands_nothing] at hands; cases hands

end

namespace System

variable {cfg : Config} {sys : System} {ms : List Move} {s : Session}

/-- The contexts of a session are the ones of its connection: all subscriptions were confirmed over
its transport and in order, the streams that have a context are the ones of the subscriptions, and
the context of a stream is what the ack for the last subscription to it has brought. -/
structure Owns (cfg : Config) (ms : List Move) (s : Session) (key : ApprovalKey)
    (xs : List Exchange) : Prop where
  confirmed : cfg.subscriptions = xs.map Exchange.subscription
  passed : passing s.transport (seenOf ms) = Attempt.confirmed key xs ++ heard s.transport ms
  defined : ∀ id, (s.codec.context? id).isSome = true ↔ id ∈ cfg.subscriptions.map (·.streamId)
  last : ∀ us x vs, xs = us ++ x :: vs →
    x.subscription.streamId ∉ vs.map (·.subscription.streamId) →
    ∃ ack key iv context, Ack.read? x.raw = some ack ∧ ack.keyIv? = some (key, iv) ∧
      s.codec.context? x.subscription.streamId = some context ∧
      context.key = Utf8.encode key ∧ context.iv = Utf8.encode iv

/-- In every run a session that is parked or listened to has the contexts of its connection. -/
lemma Trace.owns (run : Trace cfg initial ms sys) (ready : sys.Ready s) :
    ∃ key xs, Owns cfg ms s key xs := by
  obtain ⟨key, xs, all, codec, passed⟩ := run.session ready
  refine ⟨key, xs, all, passed, ?_, ?_⟩
  · intro id
    rw [codec, Exchange.isSome_context?, all, List.map_map]
    rfl
  · rintro us x vs rfl last
    obtain ⟨ack, key, iv, read, material, key_eq, iv_eq⟩ := Ack.of_validate x.accepted
    refine ⟨ack, key, iv, x.context, read, material, ?_, key_eq, iv_eq⟩
    rw [codec]
    exact Exchange.context?_eq us x vs last

/-- In every run a session that is parked or listened to has the contexts of its own connection,
whatever attempts and sessions there were before. A listener reads each frame with the codec of such
a session, whose transport the frame was taken from; and no fill is handed on that was not read in
this way. -/
theorem contexts_of_connection {cfg : Config} {ms : List Move} {sys : System}
    (run : Trace cfg initial ms sys) :
    (∀ s, sys.Ready s → ∃ key xs, Owns cfg ms s key xs) ∧
      (∀ pre m post t frame, ms = pre ++ m :: post → m.deed.stood.listens = true →
        .took t frame ∈ m.deed.did →
        ∃ s key xs, m.deed.stood.Serves s ∧ s.transport = t ∧ Owns cfg pre s key xs ∧
          m.deed.did.filterMap Effect.handled? = (s.codec.fill? frame).toList) ∧
      ∀ m ∈ ms, ∀ fill ∈ m.deed.did.filterMap Effect.handled?,
        m.deed.stood.listens = true ∧ ∃ t frame, .took t frame ∈ m.deed.did := by
  refine ⟨fun s ready => run.owns ready, ?_, ?_⟩
  · rintro pre m post t frame rfl listens took
    -- what held for the run up to this move holds for the session that the mover listens to
    obtain ⟨mid, before, at_m, found, valid⟩ := run.at_move
    have passes : (t, .took frame) ∈ passages m.deed.did := List.mem_filterMap.2 ⟨_, took, rfl⟩
    cases valid.step.converses with
    | attempts a o has =>
      rw [(Task.held_of_progress has).2] at listens
      cases listens
    | serves s serves own =>
      obtain ⟨key, xs, owns⟩ := before.owns (.inr ⟨_, List.mem_of_getElem? at_m, serves⟩)
      exact ⟨s, key, xs, serves, (own _ passes).symm, owns, valid.step.fills serves took⟩
    | quiet quiet =>
      rw [quiet] at passes
      cases passes
  · intro m mem fill hands
    obtain ⟨pre, post, rfl⟩ := List.append_of_mem mem
    obtain ⟨mid, -, -, -, valid⟩ := run.at_move
    exact valid.step.took_of_handled hands

/-- The listener of the sample has the context that the ack on its transport has brought, and reads
its frame with it. -/
theorem sampleMoves_owned :
    (∃ key xs, Owns Connect.sampleConfig sampleMoves sampleSession key xs) ∧
      (sampleSession.codec.context? "H0STCNI9").isSome = true ∧
      ∃ pre m, sampleMoves = pre ++ [m] ∧ .took 1 (.text "PINGPONG") ∈ m.deed.did ∧
        ∃ s key xs, m.deed.stood.Serves s ∧ s.transport = 1 ∧
          Owns Connect.sampleConfig pre s key xs := by
  obtain ⟨k, listens⟩ : ∃ k, sampleHeard.2.tasks[1]? = some (.listen (.echoing sampleSession k)) :=
    ⟨_, by rfl⟩
  obtain ⟨pre, m, split, listening, took⟩ : ∃ pre m, sampleMoves = pre ++ [m] ∧
      m.deed.stood.listens = true ∧ .took 1 (.text "PINGPONG") ∈ m.deed.did :=
    ⟨sampleMoves.take 13, _, by rfl, by rfl, List.mem_cons_self⟩
  obtain ⟨owned, hears, -⟩ := contexts_of_connection sampleMoves_trace
  obtain ⟨key, xs, owns⟩ :=
    owned sampleSession (.inr ⟨_, List.mem_of_getElem? listens, Listen.Serves.echoing⟩)
  obtain ⟨s, key', xs', serves, same, owns', -⟩ := hears pre m [] 1 _ split listening took
  refine ⟨⟨key, xs, owns⟩, (owns.defined _).2 ?_, pre, m, split, took, s, key', xs', serves, same,
    owns'⟩
  exact List.mem_singleton_self _

end System

end Client

end FillFeed
