import Mathlib
import FillFeed.Client.Listen
import FillFeed.Proofs.Shared

/-!
# Steps of listening

The ways in which a call that listens goes on (`Listen.Step`), one rule for each;
`Listen.advance_iff` says that the rules are exactly what `advance` does. What a frame leads to
depends on the codec of the session alone: the four rules for frames with bytes are the four ways in
which `Codec.parse?` classifies them.
-/

namespace FillFeed

/-- The bytes that a frame brings; a pong brings none. -/
def WireFrame.bytes? : WireFrame → Option (List UInt8)
  | .text s => some (Utf8.encode s)
  | .binary bytes => some bytes
  | .pong => none

namespace Client.Listen

/-- The rules by which a call that listens goes on. -/
inductive Step (cfg : Config) (shared : Shared) : Listen → Happening → Outcome → Prop where
  | unconnected (empty : shared.slot = none) :
    Step cfg shared .taking .proceed
      ⟨{ shared with slot := none }, .finished (.error .notConnected), []⟩
  | took {s} (full : shared.slot = some s) :
    Step cfg shared .taking .proceed ⟨{ shared with slot := none }, .starting s, []⟩
  | crashed {s now cause} (unset : timerCrash? cfg.keepalive.interval now = some cause) :
    Step cfg shared (.starting s) (.tick now) ⟨shared, .crashed cause, []⟩
  | started {s now} (set : timerCrash? cfg.keepalive.interval now = none) :
    Step cfg shared (.starting s) (.tick now)
      ⟨shared, .polling s (Keepalive.start now), [.began (.receive s.transport)]⟩
  | cancelled {s k} (stopped : shared.stopped = true) :
    Step cfg shared (.polling s k) .cancelled
      ⟨shared, .closing s.transport (.ok ()),
        [.noted .listenerCancelled, .began (.close s.transport)]⟩
  | pinging {s k now} (due : k.tick cfg.keepalive now = .ping) :
    Step cfg shared (.polling s k) (.tick now)
      ⟨shared, .pinging s k, [.began (.sendPing s.transport)]⟩
  | silent {s k now silence} (late : k.tick cfg.keepalive now = .giveUp silence) :
    Step cfg shared (.polling s k) (.tick now)
      ⟨shared, .closing s.transport (.error (.keepaliveTimeout silence)),
        [.noted (.keepaliveTimeout silence (k.idle now)), .began (.close s.transport)]⟩
  | ponged {s k now} :
    Step cfg shared (.polling s k) (.reply (.received (.ok (some .pong))) now)
      ⟨shared, .polling s (k.heard now),
        [.took s.transport .pong, .began (.receive s.transport)]⟩
  | skipped {s : Session} {k} {frame : WireFrame} {raw now} (bytes : frame.bytes? = some raw)
      (parsed : s.codec.parse? raw = none) :
    Step cfg shared (.polling s k) (.reply (.received (.ok (some frame))) now)
      ⟨shared, .polling s (k.heard now),
        [.took s.transport frame, .counted (.framesReceived .dropped),
          .noted (.frameSkipped raw.length), .began (.receive s.transport)]⟩
  | echoing {s : Session} {k} {frame : WireFrame} {raw text now} (bytes : frame.bytes? = some raw)
      (parsed : s.codec.parse? raw = some (.keepalive text)) :
    Step cfg shared (.polling s k) (.reply (.received (.ok (some frame))) now)
      ⟨shared, .echoing s (k.heard now),
        [.took s.transport frame, .counted (.framesReceived .keepalive),
          .began (.sendText s.transport text)]⟩
  | controlled {s : Session} {k} {frame : WireFrame} {raw value now}
      (bytes : frame.bytes? = some raw) (parsed : s.codec.parse? raw = some (.control value)) :
    Step cfg shared (.polling s k) (.reply (.received (.ok (some frame))) now)
      ⟨shared, .polling s (k.heard now),
        [.took s.transport frame, .counted (.framesReceived .control),
          .noted (.controlReceived value), .began (.receive s.transport)]⟩
  | handling {s : Session} {k} {frame : WireFrame} {raw fill now} (bytes : frame.bytes? = some raw)
      (parsed : s.codec.parse? raw = some (.execution fill)) :
    Step cfg shared (.polling s k) (.reply (.received (.ok (some frame))) now)
      ⟨shared, .handling s (k.heard now) fill,
        [.took s.transport frame, .counted (.framesReceived .execution),
          .noted (.executionReceived fill), .began (.handle fill)]⟩
  | ended {s k now} :
    Step cfg shared (.polling s k) (.reply (.received (.ok none)) now)
      ⟨shared, .closing s.transport (.error .closed),
        [.noted .closedByServer, .began (.close s.transport)]⟩
  | unreceived {s k e now} :
    Step cfg shared (.polling s k) (.reply (.received (.error e)) now)
      ⟨shared, .closing s.transport (.error (.transport e)), [.began (.close s.transport)]⟩
  | pinged {s k now} :
    Step cfg shared (.pinging s k) (.reply (.sent (.ok ())) now)
      ⟨shared, .polling s (k.pinged now), [.began (.receive s.transport)]⟩
  | unpinged {s k e now} :
    Step cfg shared (.pinging s k) (.reply (.sent (.error e)) now)
      ⟨shared, .closing s.transport (.error (.transport e)), [.began (.close s.transport)]⟩
  | echoed {s k now} :
    Step cfg shared (.echoing s k) (.reply (.sent (.ok ())) now)
      ⟨shared, .polling s k, [.noted .keepaliveEchoed, .began (.receive s.transport)]⟩
  | unechoed {s k e now} :
    Step cfg shared (.echoing s k) (.reply (.sent (.error e)) now)
      ⟨shared, .closing s.transport (.error (.transport e)), [.began (.close s.transport)]⟩
  | handled {s k fill now} :
    Step cfg shared (.handling s k fill) (.reply (.handled (.ok ())) now)
      ⟨shared, .polling s k,
        [.counted (.executionsForwarded fill.market fill.side), .began (.receive s.transport)]⟩
  | unhandled {s k fill e now} :
    Step cfg shared (.handling s k fill) (.reply (.handled (.error e)) now)
      ⟨shared, .polling s k,
        [.counted .handlerErrors, .noted (.handlerFailed e), .began (.receive s.transport)]⟩
  | closed {t result closing now} :
    Step cfg shared (.closing t result) (.reply (.closed closing) now)
      (conclude shared result (closeNotices closing))
  | closedLate {t result} :
    Step cfg shared (.closing t result) .expired
      (conclude shared result [.noted (.closeTimedOut cfg.closeTimeout)])

variable {cfg : Config} {shared : Shared}

/-- Dealing with the bytes of a frame follows the rules for frames. -/
lemma Step.of_dispatch {s : Session} {k : Keepalive} {frame : WireFrame} {raw : List UInt8}
    {now : Duration} (bytes : frame.bytes? = some raw) :
    Step cfg shared (.polling s k) (.reply (.received (.ok (some frame))) now)
      (dispatch shared s (k.heard now) raw [.took s.transport frame]) := by
  unfold dispatch
  split
  · exact .skipped bytes ‹_›
  · exact .echoing bytes ‹_›
  · exact .controlled bytes ‹_›
  · exact .handling bytes ‹_›

/-- A frame with bytes is dealt with, whichever kind of frame it is. -/
lemma advance_of_bytes {s : Session} {k : Keepalive} {frame : WireFrame} {raw : List UInt8}
    {now : Duration} (bytes : frame.bytes? = some raw) :
    (polling s k).advance cfg shared (.reply (.received (.ok (some frame))) now) =
      some (dispatch shared s (k.heard now) raw [.took s.transport frame]) := by
  cases frame with
  | text s => cases bytes; rfl
  | binary bs => cases bytes; rfl
  | pong => cases bytes

/-- A call that listens goes on by the rules and in no other way. -/
lemma advance_iff {l : Listen} {h : Happening} {o : Outcome} :
    l.advance cfg shared h = some o ↔ Step cfg shared l h o := by
  constructor
  · intro goes
    unfold advance at goes
    split at goes
    · cases slot : shared.slot with
      | none => simp only [Shared.take, slot] at goes; cases goes; exact .unconnected slot
      | some s => simp only [Shared.take, slot] at goes; cases goes; exact .took slot
    · split at goes
      · cases goes; exact .crashed ‹_›
      · cases goes; exact .started ‹_›
    · split at goes
      · cases goes; exact .cancelled ‹_›
      · cases goes
    · split at goes
      · cases goes; exact .pinging ‹_›
      · cases goes; exact .silent ‹_›
    · split at goes
      · cases goes; exact .ponged
      · cases goes; exact .of_dispatch rfl
      · cases goes; exact .of_dispatch rfl
    · cases goes; exact .ended
    · cases goes; exact .unreceived
    · cases goes; exact .pinged
    · cases goes; exact .unpinged
    · cases goes; exact .echoed
    · cases goes; exact .unechoed
    · cases goes; exact .handled
    · cases goes; exact .unhandled
    · cases goes; exact .closed
    · cases goes; exact .closedLate
    · cases goes
  · intro st
    cases st with
    | unconnected empty => simp [advance, Shared.take, empty]
    | took full => simp [advance, Shared.take, full]
    | crashed unset => simp [advance, unset]
    | started set => simp [advance, set, poll]
    | cancelled stopped => simp [advance, stopped, close]
    | pinging due => simp [advance, due]
    | silent late => simp [advance, late, close]
    | skipped bytes parsed => simp [advance_of_bytes bytes, dispatch, parsed, poll]
    | echoing bytes parsed => simp [advance_of_bytes bytes, dispatch, parsed]
    | controlled bytes parsed => simp [advance_of_bytes bytes, dispatch, parsed, poll]
    | handling bytes parsed => simp [advance_of_bytes bytes, dispatch, parsed]
    | _ => rfl

/-- The end of a listener concerns nobody who looks for neither changes of the state nor counts. -/
lemma filterMap_conclude {α : Type} {f : Effect → Option α}
    (untold : ∀ x y, f (.noted (.stateChanged x y)) = none)
    (uncounted : ∀ m, f (.counted m) = none) (unpublished : ∀ x, f (.published x) = none)
    {result : Except ClientError Unit} {effects : List Effect} :
    (conclude shared result effects).effects.filterMap f = effects.filterMap f := by
  cases result with
  | ok _ => rfl
  | error e =>
    simp only [conclude, List.filterMap_append,
      filterMap_setState untold unpublished, List.filterMap_cons_none (uncounted _),
      List.filterMap_nil, List.append_nil]

/-- A listener ends with the result that it closed its transport for. -/
@[simp] lemma conclude_next {result : Except ClientError Unit} {effects : List Effect} :
    (conclude shared result effects).next = .finished result := by
  cases result <;> rfl

/-- What was parked stays so when a listener concludes. -/
@[simp] lemma conclude_slot {result : Except ClientError Unit} {effects : List Effect} :
    (conclude shared result effects).shared.slot = shared.slot := by
  cases result with
  | ok => rfl
  | error => exact Shared.setState_slot

/-- Whether the client is stopped does not change when a listener concludes. -/
@[simp] lemma conclude_stopped {result : Except ClientError Unit} {effects : List Effect} :
    (conclude shared result effects).shared.stopped = shared.stopped := by
  cases result with
  | ok => rfl
  | error => exact Shared.setState_stopped

/-- No transport is opened when a listener concludes. -/
@[simp] lemma conclude_opened {result : Except ClientError Unit} {effects : List Effect} :
    (conclude shared result effects).shared.opened = shared.opened := by
  cases result with
  | ok => rfl
  | error => exact Shared.setState_opened

end Client.Listen

end FillFeed
