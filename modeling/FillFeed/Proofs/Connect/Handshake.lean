import Mathlib
import FillFeed.Proofs.Connect.Step
import FillFeed.Proofs.Course

/-!
# The handshake of an attempt

What passes over the transport of an attempt is a conversation: for each subscription in turn a
request is sent, pongs are skipped, and one more frame is taken, which has to be the ack. An
`Exchange` is such a turn that went well. `Talk` says which conversations an attempt can have had
that stands at some place: exchanges for the first subscriptions, in the order of the list, and then
what belongs to the current one.

`Attempt.Step.talk` keeps the record of one step and `Attempt.Course.talk` the one of a course.
-/

namespace FillFeed

/-- What passes over a transport. -/
inductive Passage where
  | opened
  | sent (text : String)
  | took (frame : WireFrame)

/-- What an effect says of a transport. -/
def Effect.passage? : Effect → Option (TransportId × Passage)
  | .opened t => some (t, .opened)
  | .began (.sendText t text) => some (t, .sent text)
  | .took t frame => some (t, .took frame)
  | _ => none

/-- The text that is sent. -/
def Passage.text? : Passage → Option String
  | .sent text => some text
  | _ => none

/-- The frame that is taken. -/
def Passage.frame? : Passage → Option WireFrame
  | .took frame => some frame
  | _ => none

/-- What passes over any transports. -/
def passages (es : List Effect) : List (TransportId × Passage) := es.filterMap Effect.passage?

/-- Where nothing is done, nothing passes. -/
@[simp] lemma passages_nil : passages [] = [] := rfl

/-- What passes over transports is put together like what is done. -/
@[simp] lemma passages_append (xs ys : List Effect) :
    passages (xs ++ ys) = passages xs ++ passages ys := List.filterMap_append

/-- A transport that is opened is a passage. -/
@[simp] lemma passages_opened (t : TransportId) (es : List Effect) :
    passages (.opened t :: es) = (t, .opened) :: passages es := rfl

/-- A frame that is taken is a passage. -/
@[simp] lemma passages_took (t : TransportId) (frame : WireFrame) (es : List Effect) :
    passages (.took t frame :: es) = (t, .took frame) :: passages es := rfl

/-- A text that is sent is a passage. -/
@[simp] lemma passages_sendText (t : TransportId) (text : String) (es : List Effect) :
    passages (.began (.sendText t text) :: es) = (t, .sent text) :: passages es := rfl

/-- Waiting for a frame is no passage. -/
@[simp] lemma passages_receive (t : TransportId) (es : List Effect) :
    passages (.began (.receive t) :: es) = passages es := rfl

/-- Closing a transport is no passage. -/
@[simp] lemma passages_close (t : TransportId) (es : List Effect) :
    passages (.began (.close t) :: es) = passages es := rfl

/-- Calling the connector is no passage. -/
@[simp] lemma passages_openTransport (url : String) (es : List Effect) :
    passages (.began (.openTransport url) :: es) = passages es := rfl

/-- A notice is no passage. -/
@[simp] lemma passages_noted (n : Notice) (es : List Effect) :
    passages (.noted n :: es) = passages es := rfl

/-- A count is no passage. -/
@[simp] lemma passages_counted (m : Metric) (es : List Effect) :
    passages (.counted m :: es) = passages es := rfl

/-- While a key is asked for, nothing passes over transports. -/
lemma Approval.Step.passages_eq {stage : Approval.Stage} {r : Reply} {p : Approval.Progress}
    {did : List Effect} (st : Approval.Step stage r p did) : passages did = [] := by
  cases st <;> rfl

namespace Client

/-- A change of the state lets nothing pass. -/
@[simp] lemma passages_setState (s : Shared) (next : ConnectionState) :
    passages (s.setState next).2 = [] :=
  filterMap_setState (fun _ _ => rfl) fun _ => rfl

/-- What is told about a closing lets nothing pass. -/
@[simp] lemma passages_closeNotices (result : Except TransportError Unit) :
    passages (closeNotices result) = [] :=
  filterMap_closeNotices fun _ => rfl

/-- A confirmed subscription: the number of pongs that were skipped and the frame behind them, whose
text is an ack that brings a context. -/
structure Exchange where
  subscription : Subscription
  pongs : Nat
  frame : WireFrame
  raw : String
  context : Cipher.Context
  answers : Attempt.answer? frame = some raw
  accepted : Ack.validate subscription.streamId raw = .ok context

namespace Exchange

/-- The frames that are taken. -/
def frames (x : Exchange) : List WireFrame := List.replicate x.pongs .pong ++ [x.frame]

/-- What passes over the transport. -/
def passages (key : ApprovalKey) (x : Exchange) : List Passage :=
  .sent (Request.subscribe key x.subscription).write :: x.frames.map .took

/-- The codec of a connection on which some subscriptions were confirmed, one after the other. -/
def codec (subscriptions : List Subscription) (xs : List Exchange) : Codec :=
  xs.foldl (fun c x => c.register x.subscription.streamId x.context)
    (Codec.ofSubscriptions subscriptions)

/-- One more confirmed subscription registers one more context. -/
lemma codec_concat (subscriptions : List Subscription) (xs : List Exchange) (x : Exchange) :
    codec subscriptions (xs ++ [x]) =
      (codec subscriptions xs).register x.subscription.streamId x.context :=
  List.foldl_append

end Exchange

namespace Attempt

/-- An attempt that goes on, as a deed of its progress. -/
def Valid (cfg : Config) (d : Deed Progress) : Prop :=
  ∃ a, d.stood = .waits a ∧ a.advance cfg d.found d.met = some ⟨d.left, d.goes, d.did⟩

/-- What an attempt does when it meets something. -/
def deed? (cfg : Config) (found : Shared) : Progress → Happening → Option (Deed Progress)
  | .waits a, h =>
    (a.advance cfg found h).map fun o => ⟨found, .waits a, h, o.shared, o.progress, o.effects⟩
  | .done _, _ => none

/-- An attempt does valid deeds only. -/
lemma valid_of_deed? {cfg : Config} {found : Shared} {p : Progress} {h : Happening}
    {d : Deed Progress} (does : deed? cfg found p h = some d) : Valid cfg d ∧ d.stood = p := by
  cases p with
  | waits a =>
    obtain ⟨o, goes, rfl⟩ := Option.map_eq_some_iff.1 does
    exact ⟨⟨a, rfl, goes⟩, rfl⟩
  | done => cases does

/-- A run of an attempt. -/
abbrev Course (cfg : Config) : Progress → List (Deed Progress) → Progress → Prop :=
  Client.Course (Valid cfg)

/-- What has passed over a transport when the first subscriptions are confirmed. -/
def confirmed (key : ApprovalKey) (xs : List Exchange) : List Passage :=
  .opened :: xs.flatMap (Exchange.passages key)

/-- A request and the pongs that were skipped since. -/
def asked (key : ApprovalKey) (s : Subscription) (pongs : Nat) : List Passage :=
  .sent (Request.subscribe key s).write :: List.replicate pongs (.took .pong)

/-- One more pong is one more frame behind the request. -/
lemma asked_succ (key : ApprovalKey) (s : Subscription) (pongs : Nat) :
    asked key s (pongs + 1) = asked key s pongs ++ [.took .pong] := by
  rw [asked, List.replicate_succ', asked, List.cons_append]

/-- One more confirmed subscription adds what passes for it. -/
lemma confirmed_concat (key : ApprovalKey) (xs : List Exchange) (x : Exchange) :
    confirmed key (xs ++ [x]) = confirmed key xs ++ x.passages key := by
  simp [confirmed]

/-- The ack of an exchange comes after its request and the pongs that were skipped. -/
lemma passages_eq (key : ApprovalKey) (x : Exchange) :
    x.passages key = asked key x.subscription x.pongs ++ [.took x.frame] := by
  simp [Exchange.passages, Exchange.frames, asked]

/-- What has passed for the subscriptions that are not confirmed: nothing when there are none, and
otherwise the request for the first of them, some pongs, and perhaps a frame that is no ack. -/
inductive Unconfirmed (key : ApprovalKey) : List Subscription → List Passage → Prop where
  | nothing : Unconfirmed key [] []
  | asked {s rest pongs} : Unconfirmed key (s :: rest) (asked key s pongs)
  | refused {s rest pongs frame raw cause} (text : answer? frame = some raw)
      (invalid : Ack.validate s.streamId raw = .error cause) :
    Unconfirmed key (s :: rest) (Attempt.asked key s pongs ++ [.took frame])

/-- What has passed over the transports of an attempt that stands at a place, or has ended. -/
inductive Talk (cfg : Config) : List (TransportId × Passage) → Progress → Prop where
  | credential {stage} : Talk cfg [] (.waits (.credential stage))
  | opening {key} : Talk cfg [] (.waits (.opening key))
  | unopened {cause} : Talk cfg [] (.done (.error cause))
  | sending {key t xs s rest} (split : cfg.subscriptions = xs.map (·.subscription) ++ s :: rest) :
    Talk cfg ((confirmed key xs ++ asked key s 0).map (t, ·))
      (.waits (.sending ⟨key, t, Exchange.codec cfg.subscriptions xs, s, rest⟩))
  | acking {key t xs s rest pongs}
      (split : cfg.subscriptions = xs.map (·.subscription) ++ s :: rest) :
    Talk cfg ((confirmed key xs ++ asked key s pongs).map (t, ·))
      (.waits (.acking ⟨key, t, Exchange.codec cfg.subscriptions xs, s, rest⟩))
  | abandoning {key t xs s rest tail cause}
      (split : cfg.subscriptions = xs.map (·.subscription) ++ s :: rest)
      (unconfirmed : Unconfirmed key (s :: rest) tail) :
    Talk cfg ((confirmed key xs ++ tail).map (t, ·)) (.waits (.abandoning t cause))
  | failed {key t xs s rest tail cause}
      (split : cfg.subscriptions = xs.map (·.subscription) ++ s :: rest)
      (unconfirmed : Unconfirmed key (s :: rest) tail) :
    Talk cfg ((confirmed key xs ++ tail).map (t, ·)) (.done (.error cause))
  | succeeded {key t xs} (all : cfg.subscriptions = xs.map (·.subscription)) :
    Talk cfg ((confirmed key xs).map (t, ·))
      (.done (.ok ⟨t, Exchange.codec cfg.subscriptions xs⟩))

section

variable {cfg : Config} {shared : Shared} {a : Attempt} {h : Happening} {o : Outcome}
  {log : List (TransportId × Passage)}

/-- Where some subscriptions are confirmed, an attempt goes on with the request for the next one, or
is done. -/
lemma Talk.subscribe {key : ApprovalKey} {t : TransportId} {xs : List Exchange}
    {rest : List Subscription} {effects : List Effect}
    (split : cfg.subscriptions = xs.map (·.subscription) ++ rest)
    (log_eq : log ++ passages effects = (confirmed key xs).map (t, ·)) :
    Talk cfg
      (log ++ passages (subscribe shared key t (Exchange.codec cfg.subscriptions xs) effects
        rest).effects)
      (subscribe shared key t (Exchange.codec cfg.subscriptions xs) effects rest).progress := by
  cases rest with
  | nil =>
    rw [List.append_nil] at split
    have talk := @Talk.succeeded cfg key t xs split
    rw [← log_eq] at talk
    exact talk
  | cons s rest =>
    have talk := @Talk.sending cfg key t xs s rest split
    rw [List.map_append, ← log_eq, List.append_assoc] at talk
    simpa [Attempt.subscribe, asked] using talk

/-- What passes in a step belongs to the conversation of the attempt. -/
lemma Step.talk (st : Step cfg shared a h o) (talk : Talk cfg log (.waits a)) :
    Talk cfg (log ++ passages o.effects) o.progress := by
  cases st with
  | obtaining st =>
    cases talk
    rw [st.passages_eq]
    exact .credential
  | obtained st =>
    cases talk
    rw [passages_append, st.passages_eq]
    exact .opening
  | unobtained st =>
    cases talk
    rw [st.passages_eq]
    exact .unopened
  | @opened key =>
    cases talk
    have split : cfg.subscriptions = [].map Exchange.subscription ++ cfg.subscriptions := rfl
    refine Talk.subscribe split ?_
    simp [confirmed]
  | unopened | unopenedLate =>
    cases talk
    exact .unopened
  | sent =>
    cases talk with
    | @sending key t xs s rest split => simpa using @Talk.acking cfg key t xs s rest 0 split
  | unsent =>
    cases talk with
    | sending split =>
      rw [passages_close, passages_nil, List.append_nil]
      exact .abandoning split .asked
  | ponged =>
    cases talk with
    | @acking key t xs s rest pongs split =>
      have more := @Talk.acking cfg key t xs s rest (pongs + 1) split
      rw [asked_succ, ← List.append_assoc, List.map_append] at more
      exact more
  | @accepted hs frame raw context _ text valid =>
    cases talk with
    | @acking key t xs s rest pongs split =>
      -- the pongs and the ack complete the exchange for the current subscription
      let x : Exchange := ⟨s, pongs, frame, raw, context, text, valid⟩
      have split' : cfg.subscriptions = (xs ++ [x]).map (·.subscription) ++ rest := by
        simpa using split
      rw [← Exchange.codec_concat cfg.subscriptions xs x]
      refine Talk.subscribe split' ?_
      simp [confirmed_concat, passages_eq, x]
  | @rejected hs frame raw cause _ text invalid =>
    cases talk with
    | @acking key t xs s rest pongs split =>
      have refused := @Unconfirmed.refused key s rest pongs frame raw cause text invalid
      have gone := @Talk.abandoning cfg key t xs s rest _ (.rejected cause) split refused
      rw [← List.append_assoc, List.map_append] at gone
      exact gone
  | ended | unreceived | unanswered =>
    cases talk with
    | acking split =>
      rw [passages_close, passages_nil, List.append_nil]
      exact .abandoning split .asked
  | abandoned =>
    cases talk with
    | abandoning split unconfirmed =>
      rw [passages_closeNotices, List.append_nil]
      exact .failed split unconfirmed
  | abandonedLate =>
    cases talk with
    | abandoning split unconfirmed =>
      rw [passages_noted, passages_nil, List.append_nil]
      exact .failed split unconfirmed

/-- The conversation of an attempt, from its beginning on. -/
lemma Course.talk {carried : Option ApprovalKey} {ds : List (Deed Progress)} {p : Progress}
    (run : Course cfg (.waits (begin cfg carried).1) ds p) : Talk cfg (passages (seen ds)) p := by
  induction run with
  | refl =>
    cases carried with
    | none => exact .credential
    | some key => exact .opening
  | @tail ds d _ valid ih =>
    obtain ⟨a, stood, goes⟩ := valid
    rw [stood] at ih
    have talk := (advance_iff.1 goes).talk ih
    simpa using talk

end

section

variable {cfg : Config} {log : List (TransportId × Passage)} {key : ApprovalKey}

/-- An attempt that has opened a transport has made exchanges for the first subscriptions; it has
succeeded when there are no others, and only then. -/
lemma Talk.summary {p : Progress} (talk : Talk cfg log p) :
    (log = [] ∧ ∀ s, p ≠ .done (.ok s)) ∨
      ∃ key t xs rest tail, log = (confirmed key xs ++ tail).map (t, ·) ∧
        cfg.subscriptions = xs.map (·.subscription) ++ rest ∧ Unconfirmed key rest tail ∧
        ((∃ s, p = .done (.ok s)) ↔ rest = []) := by
  cases talk with
  | credential | opening | unopened => exact .inl ⟨rfl, nofun⟩
  | sending split => exact .inr ⟨_, _, _, _, _, rfl, split, .asked, by simp⟩
  | acking split => exact .inr ⟨_, _, _, _, _, rfl, split, .asked, by simp⟩
  | abandoning split unconfirmed => exact .inr ⟨_, _, _, _, _, rfl, split, unconfirmed, by simp⟩
  | failed split unconfirmed => exact .inr ⟨_, _, _, _, _, rfl, split, unconfirmed, by simp⟩
  | @succeeded key t xs all =>
    refine .inr ⟨key, t, xs, [], [], by simp, by simpa using all, .nothing, by simp⟩

/-- The session of an attempt that has succeeded has a codec with the contexts of its exchanges. -/
lemma Talk.of_done {s : Session} (talk : Talk cfg log (.done (.ok s))) :
    ∃ key xs, log = (confirmed key xs).map (s.transport, ·) ∧
      cfg.subscriptions = xs.map (·.subscription) ∧
      s.codec = Exchange.codec cfg.subscriptions xs := by
  cases talk with
  | succeeded all => exact ⟨_, _, rfl, all, rfl⟩

/-- Confirmed subscriptions send one request each, in their order. -/
lemma texts_confirmed (xs : List Exchange) :
    (confirmed key xs).filterMap Passage.text? =
      xs.map fun x => (Request.subscribe key x.subscription).write := by
  have one (x : Exchange) : (x.passages key).filterMap Passage.text? =
      [(Request.subscribe key x.subscription).write] := by
    simp [Exchange.passages, Passage.text?, List.filterMap_map, Function.comp_def]
  induction xs with
  | nil => rfl
  | cons x xs ih => simpa [confirmed, one, List.filterMap_cons, Passage.text?] using ih

/-- Confirmed subscriptions take the frames of their exchanges. -/
lemma frames_confirmed (xs : List Exchange) :
    (confirmed key xs).filterMap Passage.frame? = xs.flatMap Exchange.frames := by
  have one (x : Exchange) : (x.passages key).filterMap Passage.frame? = x.frames := by
    simp [Exchange.passages, List.filterMap_cons, List.filterMap_map, Function.comp_def,
      Passage.frame?]
  induction xs with
  | nil => rfl
  | cons x xs ih => simpa [confirmed, one, List.filterMap_cons, Passage.frame?] using ih

/-- A request that is not answered yet is a single text, however many pongs are skipped. -/
lemma texts_asked (s : Subscription) (pongs : Nat) :
    (asked key s pongs).filterMap Passage.text? = [(Request.subscribe key s).write] := by
  simp [asked, Passage.text?, List.filterMap_replicate]

/-- The texts that are sent are the requests for a first part of the subscriptions. -/
lemma texts_of_unconfirmed {xs : List Exchange} {rest : List Subscription} {tail : List Passage}
    (unconfirmed : Unconfirmed key rest tail) :
    (confirmed key xs ++ tail).filterMap Passage.text? =
      ((xs.map (·.subscription) ++ rest).take (xs.length + 1)).map
        fun s => (Request.subscribe key s).write := by
  rw [List.filterMap_append, texts_confirmed]
  cases unconfirmed with
  | nothing => simp [List.take_of_length_le, Function.comp_def]
  | asked => simp [texts_asked, List.take_append, Function.comp_def]
  | refused =>
    simp [texts_asked, List.take_append, Function.comp_def, List.filterMap_cons, Passage.text?]

end

end Attempt

end Client

end FillFeed
