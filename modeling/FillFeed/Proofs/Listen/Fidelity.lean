import Mathlib
import FillFeed.Proofs.Course
import FillFeed.Proofs.Listen.Step

/-!
# Fidelity of listening

A call that listens hands to the handler exactly the fills that the codec of its session reads from
the frames that it consumed, and sends back exactly the keepalives among them, both in the order of
the frames. `Faithful` collects what this means for a course of listening, and `listen_faithful`
says that every course is faithful, whatever the other calls of the client do meanwhile.

The argument keeps to the place of the listener: it `Serves` its session until some deed `Breaks`
off the loop, and then it is `Over` and consumes nothing any more.
-/

namespace FillFeed

/-- The fill that a frame reports. -/
def Frame.fill? : Frame → Option Fill
  | .execution fill => some fill
  | _ => none

/-- The text that a keepalive has to be answered with. -/
def Frame.echo? : Frame → Option String
  | .keepalive raw => some raw
  | _ => none

namespace Codec

/-- What the codec makes of a frame; a pong is none. -/
def frame? (c : Codec) (frame : WireFrame) : Option Frame := frame.bytes?.bind c.parse?

/-- The fill that the codec reads from a frame. -/
def fill? (c : Codec) (frame : WireFrame) : Option Fill := (c.frame? frame).bind Frame.fill?

/-- The text that the codec has a frame answered with. -/
def echo? (c : Codec) (frame : WireFrame) : Option String := (c.frame? frame).bind Frame.echo?

/-- A frame with bytes is what the codec parses them as. -/
lemma frame?_of_bytes {c : Codec} {frame : WireFrame} {raw : List UInt8}
    (bytes : frame.bytes? = some raw) : c.frame? frame = c.parse? raw := by
  simp [frame?, bytes]

/-- A keepalive carries the text that was read. -/
lemma parseText?_keepalive {c : Codec} {text raw : String}
    (parsed : c.parseText? text = some (.keepalive raw)) : raw = text := by
  simp only [parseText?] at parsed
  split at parsed
  · cases parsed
  · split at parsed
    · cases parsed; rfl
    · split at parsed
      · obtain ⟨_, _, e⟩ := Option.map_eq_some_iff.1 parsed
        cases e
      · obtain ⟨_, _, e⟩ := Option.map_eq_some_iff.1 parsed
        cases e

/-- The answer to a keepalive has the bytes of the frame. -/
lemma bytes?_of_echo? {c : Codec} {frame : WireFrame} {text : String}
    (echo : c.echo? frame = some text) : frame.bytes? = some (Utf8.encode text) := by
  obtain ⟨f, parsed, isEcho⟩ := Option.bind_eq_some_iff.1 echo
  obtain ⟨raw, bytes, parsed⟩ := Option.bind_eq_some_iff.1 parsed
  cases f with
  | keepalive t =>
    cases isEcho
    obtain ⟨read, decoded, parsed⟩ := Option.bind_eq_some_iff.1 parsed
    rw [bytes, parseText?_keepalive parsed, Utf8.encode_of_decode? decoded]
  | control => cases isEcho
  | execution => cases isEcho

end Codec

namespace Client

/-- The frame that a happening brings. -/
def Happening.frame? : Happening → Option WireFrame
  | .reply (.received (.ok (some frame))) _ => some frame
  | _ => none

/-- The same happening, but for what the handler answered. -/
inductive Happening.SameButHandled : Happening → Happening → Prop where
  | same (h : Happening) : SameButHandled h h
  | handled {r r' now} : SameButHandled (.reply (.handled r) now) (.reply (.handled r') now)

end Client

/-- The fill that is handed to the handler. -/
def Effect.handled? : Effect → Option Fill
  | .began (.handle fill) => some fill
  | _ => none

/-- The text that is sent, with its transport. -/
def Effect.sent? : Effect → Option (TransportId × String)
  | .began (.sendText t text) => some (t, text)
  | _ => none

namespace Client.Listen

/-- A deed that listening does. -/
def Valid (cfg : Config) (d : Deed Listen) : Prop :=
  d.stood.advance cfg d.found d.met = some ⟨d.left, d.goes, d.did⟩

/-- What a listener does when it meets something. -/
def deed? (cfg : Config) (found : Shared) (l : Listen) (h : Happening) : Option (Deed Listen) :=
  (l.advance cfg found h).map fun o => ⟨found, l, h, o.shared, o.next, o.effects⟩

/-- A run of a call that listens. -/
abbrev Course (cfg : Config) : Listen → List (Deed Listen) → Listen → Prop :=
  Client.Course (Valid cfg)

/-- The frames that were consumed. -/
def frames (ds : List (Deed Listen)) : List WireFrame := ds.filterMap (·.met.frame?)

/-- The fills that were handed to the handler. -/
def handled (ds : List (Deed Listen)) : List Fill := (seen ds).filterMap Effect.handled?

/-- The texts that were sent, each with its transport. -/
def sent (ds : List (Deed Listen)) : List (TransportId × String) :=
  (seen ds).filterMap Effect.sent?

/-- A listener in its loop, serving a session. -/
inductive Serves (s : Session) : Listen → Prop where
  | starting : Serves s (.starting s)
  | polling {k} : Serves s (.polling s k)
  | pinging {k} : Serves s (.pinging s k)
  | echoing {k} : Serves s (.echoing s k)
  | handling {k fill} : Serves s (.handling s k fill)

/-- A listener behind its loop. -/
inductive Over : Listen → Prop where
  | closing {t result} : Over (.closing t result)
  | crashed {cause} : Over (.crashed cause)
  | finished {result} : Over (.finished result)

/-- The deeds that end the loop: the signal to stop, a silent server, a failure to send or receive,
the end of the transport, and a timer that cannot be set up. -/
def Breaks (cfg : Config) (d : Deed Listen) : Prop :=
  match d.stood, d.met with
  | .starting _, .tick now => (timerCrash? cfg.keepalive.interval now).isSome
  | .polling _ _, .cancelled => d.found.stopped = true
  | .polling _ k, .tick now => k.tick cfg.keepalive now ≠ .ping
  | .polling _ _, .reply (.received (.ok none)) _ => True
  | .polling _ _, .reply (.received (.error _)) _ => True
  | _, .reply (.sent (.error _)) _ => True
  | _, _ => False

/-- The happenings that a listener waits for: a tick or an answer to its last call. -/
def Awaits : Listen → Happening → Prop
  | .starting _, .tick _ => True
  | .polling _ _, .tick _ => True
  | .polling _ _, .reply (.received _) _ => True
  | .pinging _ _, .reply (.sent _) _ => True
  | .echoing _ _, .reply (.sent _) _ => True
  | .handling _ _ _, .reply (.handled _) _ => True
  | .closing _ _, .reply (.closed _) _ => True
  | .closing _ _, .expired => True
  | _, _ => False

/-- What a session may expect of a listener that did some deeds and now stands at some place. -/
structure Faithful (cfg : Config) (s : Session) (ds : List (Deed Listen)) (l : Listen) : Prop where
  /-- The fills of the consumed frames, in order and once each, went to the handler. -/
  handled_eq : handled ds = (frames ds).filterMap s.codec.fill?
  /-- The keepalives among the consumed frames, in order and once each, were sent back. -/
  sent_eq : sent ds = ((frames ds).filterMap s.codec.echo?).map (s.transport, ·)
  /-- What was sent back has the bytes of the keepalives. -/
  sent_bytes : (sent ds).map (fun p => some (Utf8.encode p.2)) =
    ((frames ds).filter fun frame => (s.codec.echo? frame).isSome).map WireFrame.bytes?
  /-- Other answers of the handler would have changed none of this, nor where the listener is. -/
  handler_free : ∀ hs, List.Forall₂ Happening.SameButHandled (ds.map (·.met)) hs →
    ∃ ds', Course cfg .taking ds' l ∧ ds'.map (·.met) = hs ∧
      (ds'.map fun d => (d.found, d.left)) = (ds.map fun d => (d.found, d.left)) ∧
      handled ds' = handled ds ∧ sent ds' = sent ds
  /-- The listener is in its loop unless a deed ended it. -/
  serves : (∀ d ∈ ds, ¬Breaks cfg d) → Serves s l
  /-- The listener goes on with whatever it waits for. -/
  responds : ∀ found h, l.Awaits h → (l.advance cfg found h).isSome
  /-- Once something could not be sent, the listener fails with this and does nothing more. -/
  unsent : ∀ before d after e now, ds = before ++ d :: after →
    d.met = .reply (.sent (.error e)) now →
    d.goes = .closing s.transport (.error (.transport e)) ∧
      frames after = [] ∧ handled after = [] ∧ sent after = [] ∧
      ∀ result, l = .finished result → result = .error (.transport e)
  /-- The listener ends well only when the client was stopped. -/
  stopped_of_ok : l = .finished (.ok ()) → ∃ d ∈ ds, d.met = .cancelled ∧ d.found.stopped = true

section

variable {cfg : Config} {s : Session} {d : Deed Listen} {a l : Listen} {ds : List (Deed Listen)}

/-- A deed follows the rules. -/
lemma Valid.step (valid : Valid cfg d) :
    Step cfg d.found d.stood d.met ⟨d.left, d.goes, d.did⟩ :=
  advance_iff.1 valid

/-- A listener does valid deeds only. -/
lemma valid_of_deed? {found : Shared} {h : Happening} (does : deed? cfg found l h = some d) :
    Valid cfg d ∧ d.stood = l := by
  obtain ⟨o, goes, rfl⟩ := Option.map_eq_some_iff.1 does
  exact ⟨goes, rfl⟩

/-- A listener stays in its loop until a deed breaks it off. -/
lemma Valid.goes_of_serves (valid : Valid cfg d) (serving : Serves s d.stood) :
    Serves s d.goes ∨ (Over d.goes ∧ Breaks cfg d) := by
  obtain ⟨found, stood, met, left, goes, did⟩ := d
  have st := valid.step
  dsimp only at serving st ⊢
  cases serving with
  | starting =>
    cases st with
    | crashed unset => exact .inr ⟨.crashed, by simp [Breaks, unset]⟩
    | started => exact .inl .polling
  | polling =>
    cases st with
    | cancelled stopped => exact .inr ⟨.closing, stopped⟩
    | pinging => exact .inl .pinging
    | silent late => exact .inr ⟨.closing, by simp [Breaks, late]⟩
    | ponged => exact .inl .polling
    | skipped => exact .inl .polling
    | echoing => exact .inl .echoing
    | controlled => exact .inl .polling
    | handling => exact .inl .handling
    | ended => exact .inr ⟨.closing, trivial⟩
    | unreceived => exact .inr ⟨.closing, trivial⟩
  | pinging =>
    cases st with
    | pinged => exact .inl .polling
    | unpinged => exact .inr ⟨.closing, trivial⟩
  | echoing =>
    cases st with
    | echoed => exact .inl .polling
    | unechoed => exact .inr ⟨.closing, trivial⟩
  | handling => cases st <;> exact .inl .polling

/-- A deed in the loop accounts for the frame that it consumes. -/
lemma Valid.accounts (valid : Valid cfg d) (serving : Serves s d.stood) :
    d.did.filterMap Effect.handled? = d.met.frame?.toList.filterMap s.codec.fill? ∧
      d.did.filterMap Effect.sent? =
        (d.met.frame?.toList.filterMap s.codec.echo?).map (s.transport, ·) := by
  obtain ⟨found, stood, met, left, goes, did⟩ := d
  have st := valid.step
  dsimp only at serving st ⊢
  cases serving with
  | starting => cases st <;> exact ⟨rfl, rfl⟩
  | polling =>
    cases st with
    | skipped bytes parsed | echoing bytes parsed | controlled bytes parsed
    | handling bytes parsed =>
      simp [List.filterMap_cons, Effect.handled?, Effect.sent?, Happening.frame?, Codec.fill?,
        Codec.echo?, Codec.frame?_of_bytes bytes, parsed, Frame.fill?, Frame.echo?]
    | _ => exact ⟨rfl, rfl⟩
  | pinging => cases st <;> exact ⟨rfl, rfl⟩
  | echoing => cases st <;> exact ⟨rfl, rfl⟩
  | handling => cases st <;> exact ⟨rfl, rfl⟩

/-- Behind its loop a listener does nothing but close its transport, and its result stays. -/
lemma Valid.goes_of_over (valid : Valid cfg d) (past : Over d.stood) :
    ∃ t result, d.stood = .closing t result ∧ d.goes = .finished result ∧
      d.met.frame? = none ∧ d.did.filterMap Effect.handled? = [] ∧
      d.did.filterMap Effect.sent? = [] := by
  obtain ⟨found, stood, met, left, goes, did⟩ := d
  have st := valid.step
  dsimp only at past st ⊢
  generalize e : (⟨left, goes, did⟩ : Outcome) = o at st
  cases past with
  | @closing t result =>
    refine ⟨t, result, rfl, ?_⟩
    have goes_eq : goes = o.next := congrArg Outcome.next e
    have did_eq : did = o.effects := congrArg Outcome.effects e
    subst goes_eq did_eq
    cases st with
    | closed =>
      refine ⟨conclude_next, rfl, ?_, ?_⟩
      · rw [filterMap_conclude (fun _ _ => rfl) (fun _ => rfl) fun _ => rfl]
        exact filterMap_closeNotices fun _ => rfl
      · rw [filterMap_conclude (fun _ _ => rfl) (fun _ => rfl) fun _ => rfl]
        exact filterMap_closeNotices fun _ => rfl
    | closedLate =>
      refine ⟨conclude_next, rfl, ?_, ?_⟩
      · exact filterMap_conclude (fun _ _ => rfl) (fun _ => rfl) fun _ => rfl
      · exact filterMap_conclude (fun _ _ => rfl) (fun _ => rfl) fun _ => rfl
  | crashed => cases st
  | finished => cases st

/-- What a last deed adds to the frames. -/
lemma frames_concat (ds : List (Deed Listen)) (d : Deed Listen) :
    frames (ds ++ [d]) = frames ds ++ d.met.frame?.toList := by
  simp only [frames, List.filterMap_append]
  cases e : d.met.frame? <;> simp [e]

/-- What a last deed adds to the fills. -/
lemma handled_concat (ds : List (Deed Listen)) (d : Deed Listen) :
    handled (ds ++ [d]) = handled ds ++ d.did.filterMap Effect.handled? := by
  simp [handled]

/-- What a last deed adds to the texts. -/
lemma sent_concat (ds : List (Deed Listen)) (d : Deed Listen) :
    sent (ds ++ [d]) = sent ds ++ d.did.filterMap Effect.sent? := by
  simp [sent]

/-- A course that begins in the loop accounts for all that it consumes, and stays in the loop or
ends up behind it. -/
lemma Course.accounts (run : Course cfg a ds l) (serving : Serves s a) :
    (Serves s l ∨ Over l) ∧ handled ds = (frames ds).filterMap s.codec.fill? ∧
      sent ds = ((frames ds).filterMap s.codec.echo?).map (s.transport, ·) := by
  induction run with
  | refl => exact ⟨.inl serving, rfl, rfl⟩
  | @tail ds d run valid ih =>
    obtain ⟨place, handled_eq, sent_eq⟩ := ih
    rw [handled_concat, sent_concat, frames_concat]
    cases place with
    | inl serves =>
      obtain ⟨fills, echoes⟩ := Valid.accounts valid serves
      refine ⟨(Valid.goes_of_serves valid serves).imp_right And.left, ?_, ?_⟩
      · rw [handled_eq, fills, List.filterMap_append]
      · rw [sent_eq, echoes, List.filterMap_append, List.map_append]
    | inr past =>
      -- nothing is consumed behind the loop, so that both sides stay
      obtain ⟨t, result, -, goes, frame, fills, echoes⟩ := Valid.goes_of_over valid past
      refine ⟨.inr (goes ▸ .finished), ?_, ?_⟩
      · simp [handled_eq, fills, frame]
      · simp [sent_eq, echoes, frame]

/-- A course stays in the loop as long as no deed breaks it off. -/
lemma Course.serves (run : Course cfg a ds l) (serving : Serves s a)
    (unbroken : ∀ d ∈ ds, ¬Breaks cfg d) : Serves s l := by
  refine Client.Course.preserves run ?_ serving
  intro d mem valid before
  obtain after | ⟨-, breaks⟩ := Valid.goes_of_serves valid before
  · exact after
  · exact absurd breaks (unbroken d mem)

/-- A listener that closes its transport consumes nothing any more, and its result stays. -/
lemma Course.of_closing {t : TransportId} {result : Except ClientError Unit}
    (run : Course cfg (.closing t result) ds l) :
    frames ds = [] ∧ handled ds = [] ∧ sent ds = [] ∧
      (l = .closing t result ∨ l = .finished result) := by
  induction run with
  | refl => exact ⟨rfl, rfl, rfl, .inl rfl⟩
  | @tail ds d run valid ih =>
    obtain ⟨noFrames, noFills, noTexts, place⟩ := ih
    have past : Over d.stood := by
      cases place with
      | inl here => exact here ▸ .closing
      | inr here => exact here ▸ .finished
    obtain ⟨t', result', stood, goes, frame, fills, texts⟩ := Valid.goes_of_over valid past
    rw [frames_concat, handled_concat, sent_concat, noFrames, noFills, noTexts, frame, fills, texts]
    refine ⟨rfl, rfl, rfl, .inr ?_⟩
    cases place with
    | inl here =>
      rw [here] at stood
      cases stood
      exact goes
    | inr here =>
      rw [here] at stood
      cases stood

/-- A listener that could not send something closes its transport with this failure. -/
lemma Valid.goes_of_unsent {e : TransportError} {now : Duration} (valid : Valid cfg d)
    (place : Serves s d.stood ∨ Over d.stood) (met : d.met = .reply (.sent (.error e)) now) :
    d.goes = .closing s.transport (.error (.transport e)) := by
  obtain ⟨found, stood, met', left, goes, did⟩ := d
  have st := valid.step
  dsimp only at met place st ⊢
  subst met
  obtain serving | past := place
  · cases serving with
    | starting | polling | handling => cases st
    | pinging => cases st; rfl
    | echoing => cases st; rfl
  · cases past <;> cases st

/-- A deed that leads from the loop to a good end is the signal to stop. -/
lemma Valid.cancelled_of_well (valid : Valid cfg d) (serving : Serves s d.stood)
    (well : (∃ t, d.goes = .closing t (.ok ())) ∨ d.goes = .finished (.ok ())) :
    d.met = .cancelled ∧ d.found.stopped = true := by
  obtain ⟨found, stood, met, left, goes, did⟩ := d
  have st := valid.step
  dsimp only at serving st well ⊢
  -- every other way out of the loop carries an error
  cases serving <;> cases st <;> simp_all

/-- A listener that is about to end well, or has ended well, was told to stop. -/
lemma Course.stopped (run : Course cfg a ds l) (serving : Serves s a)
    (well : (∃ t, l = .closing t (.ok ())) ∨ l = .finished (.ok ())) :
    ∃ d ∈ ds, d.met = .cancelled ∧ d.found.stopped = true := by
  induction run with
  | refl =>
    obtain ⟨t, rfl⟩ | rfl := well
    · cases serving
    · cases serving
  | @tail ds d run valid ih =>
    obtain ⟨place, -, -⟩ := Course.accounts run serving
    cases place with
    | inl before => exact ⟨d, by simp, Valid.cancelled_of_well valid before well⟩
    | inr past =>
      obtain ⟨t, result, stood, goes, -⟩ := Valid.goes_of_over valid past
      rw [goes] at well
      obtain ⟨_, e⟩ | e := well
      · cases e
      · cases e
        obtain ⟨d', mem, told⟩ := ih (.inl ⟨t, stood⟩)
        exact ⟨d', List.mem_append_left _ mem, told⟩

/-- Whatever the handler answers, a listener goes back to its loop. -/
lemma Step.of_handled (found : Shared) (s : Session) (k : Keepalive) (fill : Fill)
    (r : Except HandlerError Unit) (now : Duration) :
    ∃ did, Step cfg found (.handling s k fill) (.reply (.handled r) now)
        ⟨found, .polling s k, did⟩ ∧
      did.filterMap Effect.handled? = [] ∧ did.filterMap Effect.sent? = [] := by
  cases r with
  | ok => exact ⟨_, .handled, rfl, rfl⟩
  | error => exact ⟨_, .unhandled, rfl, rfl⟩

/-- A deed is as good with another answer of the handler. -/
lemma Valid.rehandle {h : Happening} (valid : Valid cfg d)
    (same : Happening.SameButHandled d.met h) :
    ∃ d', Valid cfg d' ∧ d'.stood = d.stood ∧ d'.goes = d.goes ∧ d'.met = h ∧
      (d'.found, d'.left) = (d.found, d.left) ∧
      d'.did.filterMap Effect.handled? = d.did.filterMap Effect.handled? ∧
      d'.did.filterMap Effect.sent? = d.did.filterMap Effect.sent? := by
  obtain ⟨found, stood, met, left, goes, did⟩ := d
  have st := valid.step
  dsimp only at same st ⊢
  cases same with
  | same => exact ⟨_, valid, rfl, rfl, rfl, rfl, rfl, rfl⟩
  | @handled r r' now =>
    cases st with
    | @handled s k fill _ =>
      obtain ⟨did', st', fills, texts⟩ := Step.of_handled found s k fill r' now
      exact ⟨⟨found, _, _, found, _, did'⟩, advance_iff.2 st', rfl, rfl, rfl, rfl, fills, texts⟩
    | @unhandled s k fill e _ =>
      obtain ⟨did', st', fills, texts⟩ := Step.of_handled found s k fill r' now
      exact ⟨⟨found, _, _, found, _, did'⟩, advance_iff.2 st', rfl, rfl, rfl, rfl, fills, texts⟩

/-- A course is as good with other answers of the handler. -/
lemma Course.rehandle {hs : List Happening} (run : Course cfg a ds l)
    (same : List.Forall₂ Happening.SameButHandled (ds.map (·.met)) hs) :
    ∃ ds', Course cfg a ds' l ∧ ds'.map (·.met) = hs ∧
      (ds'.map fun d => (d.found, d.left)) = (ds.map fun d => (d.found, d.left)) ∧
      handled ds' = handled ds ∧ sent ds' = sent ds := by
  induction ds generalizing a hs with
  | nil =>
    cases same
    exact ⟨[], run, rfl, rfl, rfl, rfl⟩
  | cons d ds ih =>
    obtain ⟨rfl, valid, rest⟩ := Client.Course.head run
    cases same with
    | cons first others =>
      obtain ⟨d', valid', stood, goes, met, shared, fills, texts⟩ := Valid.rehandle valid first
      -- the other answer leads to the same place, from where the rest can follow
      rw [← goes] at rest
      obtain ⟨ds', run', mets, shareds, moreFills, moreTexts⟩ := ih rest others
      refine ⟨d' :: ds', stood ▸ Client.Course.cons valid' run', ?_, ?_, ?_, ?_⟩
      · rw [List.map_cons, met, mets]
      · rw [List.map_cons, List.map_cons, shared, shareds]
      · simp only [handled, seen_cons, List.filterMap_append] at moreFills ⊢
        rw [fills, moreFills]
      · simp only [sent, seen_cons, List.filterMap_append] at moreTexts ⊢
        rw [texts, moreTexts]

/-- A listener can deal with all that it may wait for. -/
lemma advance_isSome_of_awaits {found : Shared} {h : Happening} (awaits : l.Awaits h) :
    (l.advance cfg found h).isSome := by
  unfold Awaits at awaits
  split at awaits
  · rename_i s now
    cases unset : timerCrash? cfg.keepalive.interval now with
    | none => exact Option.isSome_iff_exists.2 ⟨_, advance_iff.2 (.started unset)⟩
    | some cause => exact Option.isSome_iff_exists.2 ⟨_, advance_iff.2 (.crashed unset)⟩
  · rename_i s k now
    cases due : k.tick cfg.keepalive now with
    | ping => exact Option.isSome_iff_exists.2 ⟨_, advance_iff.2 (.pinging due)⟩
    | giveUp silence => exact Option.isSome_iff_exists.2 ⟨_, advance_iff.2 (.silent due)⟩
  · rename_i s k r now
    cases r with
    | error e => rfl
    | ok frame =>
      cases frame with
      | none => rfl
      | some frame => cases frame <;> rfl
  · rename_i r _
    cases r <;> rfl
  · rename_i r _
    cases r <;> rfl
  · rename_i r _
    cases r <;> rfl
  · rfl
  · rfl
  · cases awaits

/-- The bytes of the texts that answer some frames are the bytes of the frames that are answered. -/
lemma bytes_of_echoes (c : Codec) (frames : List WireFrame) :
    (frames.filterMap c.echo?).map (fun text => some (Utf8.encode text)) =
      (frames.filter fun frame => (c.echo? frame).isSome).map WireFrame.bytes? := by
  induction frames with
  | nil => rfl
  | cons frame frames ih =>
    cases echo : c.echo? frame with
    | none =>
      rw [List.filterMap_cons_none echo, ih, List.filter_cons_of_neg (by simp [echo])]
    | some text =>
      rw [List.filterMap_cons_some echo, List.filter_cons_of_pos (by simp [echo]), List.map_cons,
        List.map_cons, ih, Codec.bytes?_of_echo? echo]

/-- A call that listens to a parked session takes it and sets out for its loop. -/
lemma Course.taking {first : Deed Listen} (parked : first.found.slot = some s)
    (run : Course cfg .taking (first :: ds) l) :
    first.met = .proceed ∧ first.did = [] ∧ Serves s first.goes ∧ Course cfg first.goes ds l := by
  obtain ⟨place, valid, rest⟩ := Client.Course.head run
  obtain ⟨found, stood, met, left, goes, did⟩ := first
  have st := valid.step
  dsimp only at place parked st rest ⊢
  subst place
  cases st with
  | unconnected empty =>
    rw [parked] at empty
    cases empty
  | took full =>
    rw [parked] at full
    cases full
    exact ⟨rfl, rfl, .starting, rest⟩

/-- Once something could not be sent, a listener fails with this and does nothing more. -/
lemma Course.unsent {before after : List (Deed Listen)} {e : TransportError} {now : Duration}
    (run : Course cfg a (before ++ d :: after) l) (serving : Serves s a)
    (met : d.met = .reply (.sent (.error e)) now) :
    d.goes = .closing s.transport (.error (.transport e)) ∧
      frames after = [] ∧ handled after = [] ∧ sent after = [] ∧
      ∀ result, l = .finished result → result = .error (.transport e) := by
  obtain ⟨m, reached, onwards⟩ := Client.Course.split run
  obtain ⟨rfl, valid, rest⟩ := Client.Course.head onwards
  have goes := Valid.goes_of_unsent valid (Course.accounts reached serving).1 met
  rw [goes] at rest
  obtain ⟨noFrames, noFills, noTexts, place⟩ := Course.of_closing rest
  refine ⟨goes, noFrames, noFills, noTexts, ?_⟩
  intro result ended
  obtain here | here := place
  · cases here ▸ ended
  · cases here ▸ ended
    rfl

end

/-- A call that listens to a parked session is faithful to it, whatever frames and failures it
meets, whenever it pings, and whatever the other calls of the client do meanwhile. -/
theorem listen_faithful {cfg : Config} {s : Session} {first : Deed Listen}
    {ds : List (Deed Listen)} {l : Listen} (parked : first.found.slot = some s)
    (run : Course cfg .taking (first :: ds) l) : Faithful cfg s (first :: ds) l := by
  obtain ⟨proceeds, quiet, serving, rest⟩ := Course.taking parked run
  obtain ⟨place, handled_eq, sent_eq⟩ := Course.accounts rest serving
  -- the first deed takes the session; it consumes no frame and sends nothing
  have frames_eq : frames (first :: ds) = frames ds :=
    List.filterMap_cons_none (by simp [proceeds, Happening.frame?])
  have handled_cons : handled (first :: ds) = handled ds := by simp [handled, quiet]
  have sent_cons : sent (first :: ds) = sent ds := by simp [sent, quiet]
  constructor
  case handled_eq => rw [handled_cons, frames_eq, handled_eq]
  case sent_eq => rw [sent_cons, frames_eq, sent_eq]
  case sent_bytes =>
    rw [sent_cons, frames_eq, sent_eq, List.map_map]
    exact bytes_of_echoes s.codec (frames ds)
  case handler_free =>
    intro hs same
    exact Course.rehandle run same
  case serves =>
    intro unbroken
    exact Course.serves rest serving fun d mem => unbroken d (List.mem_cons_of_mem _ mem)
  case responds =>
    intro found h awaits
    exact advance_isSome_of_awaits awaits
  case unsent =>
    intro before d after e now split met
    cases before with
    | nil =>
      cases split
      rw [proceeds] at met
      cases met
    | cons _ before =>
      cases split
      exact Course.unsent rest serving met
  case stopped_of_ok =>
    intro well
    obtain ⟨d, mem, told⟩ := Course.stopped rest serving (.inr well)
    exact ⟨d, List.mem_cons_of_mem _ mem, told⟩

/-- A listener that meets a keepalive, a fill that the handler refuses, a pong, a tick, and a
keepalive that it cannot send back. -/
def sampleRun : List (Deed Listen) × Listen :=
  replay (deed? (Config.of "ws://feed" []))
    { Shared.initial with slot := some ⟨1, Codec.ofSubscriptions []⟩, opened := 1 } .taking
    [.proceed, .tick ⟨0⟩, .reply (.received (.ok (some (.text "PINGPONG")))) ⟨1⟩,
      .reply (.sent (.ok ())) ⟨2⟩,
      .reply (.received (.ok (some (.text "0|S|x|AAPL^02")))) ⟨3⟩,
      .reply (.handled (.error .channelClosed)) ⟨4⟩, .reply (.received (.ok (some .pong))) ⟨5⟩,
      .tick ⟨6⟩, .reply (.sent (.ok ())) ⟨7⟩,
      .reply (.received (.ok (some (.binary (Utf8.encode "pingpong 2"))))) ⟨8⟩,
      .reply (.sent (.error (.send "lost"))) ⟨9⟩, .reply (.closed (.ok ())) ⟨10⟩]

/-- The listener of the sample is faithful to its session. -/
theorem sampleRun_faithful :
    Faithful (Config.of "ws://feed" []) ⟨1, Codec.ofSubscriptions []⟩ sampleRun.1 sampleRun.2 ∧
      (handled sampleRun.1).map (·.symbol) = ["AAPL"] ∧
      sent sampleRun.1 = [(1, "PINGPONG"), (1, "pingpong 2")] ∧
      sampleRun.2 = .finished (.error (.transport (.send "lost"))) := by
  refine ⟨?_, by rfl, by rfl, by rfl⟩
  have run : Course (Config.of "ws://feed" []) .taking sampleRun.1 sampleRun.2 :=
    .of_replay (fun _ _ _ _ => valid_of_deed?) _ _ _
  exact listen_faithful rfl run

end Client.Listen

end FillFeed
