import Mathlib
import FillFeed.Client.Connect
import FillFeed.Proofs.Shared

/-!
# Steps of connecting

The ways in which a request for a key (`Approval.Step`), an attempt (`Attempt.Step`) and a call that
connects (`Connect.Step`) go on, one rule for each. `Approval.advance_iff`, `Attempt.advance_iff`
and `Connect.advance_iff` say that the rules are exactly what `advance` does, so that whatever holds
of all steps is shown by a case analysis on the rule.

An attempt that has opened its transport goes on with `subscribe`, which depends on the
subscriptions that are left; the rules `opened` and `accepted` keep it as it is, and
`Attempt.subscribe_cases` takes it apart.
-/

namespace FillFeed.Approval

/-- The rules by which a request for a key goes on. -/
inductive Step : Stage → Reply → Progress → List Effect → Prop where
  | hit {raw key} (read : ApprovalKey.parse? raw = some key) :
    Step .reading (.cacheRead (.ok (some raw))) (.done (.ok key)) [.noted .keyCached]
  | blank {raw} (read : ApprovalKey.parse? raw = none) :
    Step .reading (.cacheRead (.ok (some raw))) (.waits (.issuing .cacheMiss))
      [.noted .cachedKeyBlank, .began .issueKey]
  | miss :
    Step .reading (.cacheRead (.ok none)) (.waits (.issuing .cacheMiss))
      [.noted .noCachedKey, .began .issueKey]
  | unread {e} :
    Step .reading (.cacheRead (.error e)) (.waits (.issuing .cacheMiss))
      [.noted (.cacheReadFailed e), .began .issueKey]
  | issued {reason key} :
    Step (.issuing reason) (.keyIssued (.ok key)) (.waits (.caching key))
      [.counted (.approvalKeysIssued reason), .noted (.keyIssued reason),
        .began (.writeCache key ApprovalKey.cacheLifetime)]
  | refused {reason e} :
    Step (.issuing reason) (.keyIssued (.error e)) (.done (.error e)) []
  | written {key} :
    Step (.caching key) (.cacheWritten (.ok ())) (.done (.ok key)) []
  | unwritten {key e} :
    Step (.caching key) (.cacheWritten (.error e)) (.done (.ok key)) [.noted (.cacheWriteFailed e)]

/-- A request for a key goes on by the rules and in no other way. -/
lemma advance_iff {stage r p effects} :
    advance stage r = some (p, effects) ↔ Step stage r p effects := by
  constructor
  · intro goes
    unfold advance at goes
    split at goes
    · split at goes
      · cases goes; exact .hit ‹_›
      · cases goes; exact .blank ‹_›
    · cases goes; exact .miss
    · cases goes; exact .unread
    · cases goes; exact .issued
    · cases goes; exact .refused
    · cases goes; exact .written
    · cases goes; exact .unwritten
    · cases goes
  · intro st
    cases st with
    | hit read => simp [advance, read]
    | blank read => simp [advance, read, enter, Stage.call]
    | _ => rfl

end FillFeed.Approval

namespace FillFeed.Client

namespace Attempt

/-- An attempt with no subscription left is done, and any other sends the next request. -/
lemma subscribe_cases (shared : Shared) (key : ApprovalKey) (t : TransportId) (codec : Codec)
    (effects : List Effect) (rest : List Subscription) :
    subscribe shared key t codec effects rest = ⟨shared, .done (.ok ⟨t, codec⟩), effects⟩ ∨
      ∃ s rest', rest = s :: rest' ∧
        subscribe shared key t codec effects rest =
          ⟨shared, .waits (.sending ⟨key, t, codec, s, rest'⟩),
            effects ++ [.began (.sendText t (Request.subscribe key s).write)]⟩ := by
  cases rest with
  | nil => exact .inl rfl
  | cons s rest' => exact .inr ⟨s, rest', rfl, rfl⟩

/-- Subscribing changes nothing that is shared. -/
@[simp] lemma subscribe_shared {shared : Shared} {key : ApprovalKey} {t : TransportId}
    {codec : Codec} {effects : List Effect} {rest : List Subscription} :
    (subscribe shared key t codec effects rest).shared = shared := by
  cases rest <;> rfl

/-- What subscribing does concerns nobody who does not look for texts that are sent. -/
lemma filterMap_subscribe {α : Type} {f : Effect → Option α}
    (unsent : ∀ t text, f (.began (.sendText t text)) = none) {shared : Shared} {key : ApprovalKey}
    {t : TransportId} {codec : Codec} {effects : List Effect} {rest : List Subscription} :
    (subscribe shared key t codec effects rest).effects.filterMap f = effects.filterMap f := by
  cases rest with
  | nil => rfl
  | cons s rest =>
    simp only [subscribe, List.filterMap_append, List.filterMap_cons_none (unsent _ _),
      List.filterMap_nil, List.append_nil]

/-- Subscribing does not fail at once. -/
lemma subscribe_ne_error {shared : Shared} {key : ApprovalKey} {t : TransportId} {codec : Codec}
    {effects : List Effect} {rest : List Subscription} {e : ClientError} :
    (subscribe shared key t codec effects rest).progress ≠ .done (.error e) := by
  cases rest <;> exact nofun

/-- Subscribing goes on as long as there is something left. -/
lemma ne_nil_of_subscribe {shared : Shared} {key : ApprovalKey} {t : TransportId} {codec : Codec}
    {effects : List Effect} {rest : List Subscription} {a : Attempt}
    (waits : (subscribe shared key t codec effects rest).progress = .waits a) : rest ≠ [] := by
  rintro rfl
  cases waits

/-- The text in which the answer to a request is read; a pong answers nothing. -/
def answer? : WireFrame → Option String
  | .text raw => some raw
  | .binary bytes => some (Utf8.decodeLossy bytes)
  | .pong => none

/-- The rules by which an attempt goes on. -/
inductive Step (cfg : Config) (shared : Shared) : Attempt → Happening → Outcome → Prop where
  | obtaining {stage r now stage' effects} (st : Approval.Step stage r (.waits stage') effects) :
    Step cfg shared (.credential stage) (.reply r now)
      ⟨shared, .waits (.credential stage'), effects⟩
  | obtained {stage r now key effects} (st : Approval.Step stage r (.done (.ok key)) effects) :
    Step cfg shared (.credential stage) (.reply r now)
      ⟨shared, .waits (.opening key), effects ++ [.began (.openTransport cfg.url)]⟩
  | unobtained {stage r now e effects} (st : Approval.Step stage r (.done (.error e)) effects) :
    Step cfg shared (.credential stage) (.reply r now)
      ⟨shared, .done (.error (.credential e)), effects⟩
  | opened {key now} :
    Step cfg shared (.opening key) (.reply (.opened (.ok ())) now)
      (subscribe (shared.addTransport.1.setState .subscribing).1 key shared.addTransport.2
        (Codec.ofSubscriptions cfg.subscriptions)
        (.opened shared.addTransport.2 :: (shared.addTransport.1.setState .subscribing).2)
        cfg.subscriptions)
  | unopened {key e now} :
    Step cfg shared (.opening key) (.reply (.opened (.error e)) now)
      ⟨shared, .done (.error (.transport e)), []⟩
  | unopenedLate {key} :
    Step cfg shared (.opening key) .expired
      ⟨shared, .done (.error (.transport .connectTimeout)), []⟩
  | sent {h now} :
    Step cfg shared (.sending h) (.reply (.sent (.ok ())) now)
      ⟨shared, .waits (.acking h), [.began (.receive h.transport)]⟩
  | unsent {h e now} :
    Step cfg shared (.sending h) (.reply (.sent (.error e)) now)
      ⟨shared, .waits (.abandoning h.transport (.transport e)), [.began (.close h.transport)]⟩
  | ponged {h now} :
    Step cfg shared (.acking h) (.reply (.received (.ok (some .pong))) now)
      ⟨shared, .waits (.acking h), [.took h.transport .pong, .began (.receive h.transport)]⟩
  | accepted {h frame raw context now} (text : answer? frame = some raw)
      (valid : Ack.validate h.current.streamId raw = .ok context) :
    Step cfg shared (.acking h) (.reply (.received (.ok (some frame))) now)
      (subscribe shared h.key h.transport (h.codec.register h.current.streamId context)
        [.took h.transport frame, .noted (.acknowledged h.current)] h.rest)
  | rejected {h frame raw cause now} (text : answer? frame = some raw)
      (invalid : Ack.validate h.current.streamId raw = .error cause) :
    Step cfg shared (.acking h) (.reply (.received (.ok (some frame))) now)
      ⟨shared, .waits (.abandoning h.transport (.rejected cause)),
        [.took h.transport frame, .began (.close h.transport)]⟩
  | ended {h now} :
    Step cfg shared (.acking h) (.reply (.received (.ok none)) now)
      ⟨shared, .waits (.abandoning h.transport .closed), [.began (.close h.transport)]⟩
  | unreceived {h e now} :
    Step cfg shared (.acking h) (.reply (.received (.error e)) now)
      ⟨shared, .waits (.abandoning h.transport (.transport e)), [.began (.close h.transport)]⟩
  | unanswered {h} :
    Step cfg shared (.acking h) .expired
      ⟨shared, .waits (.abandoning h.transport (.ackTimeout h.current.streamId cfg.ackTimeout)),
        [.began (.close h.transport)]⟩
  | abandoned {t cause result now} :
    Step cfg shared (.abandoning t cause) (.reply (.closed result) now)
      ⟨shared, .done (.error cause), closeNotices result⟩
  | abandonedLate {t cause} :
    Step cfg shared (.abandoning t cause) .expired
      ⟨shared, .done (.error cause), [.noted (.closeTimedOut cfg.closeTimeout)]⟩

/-- Judging an answer follows the rules for answers. -/
lemma Step.of_judge {cfg : Config} {shared : Shared} {h : Handshake} {frame : WireFrame}
    {raw : String} {now : Duration} (text : answer? frame = some raw) :
    Step cfg shared (.acking h) (.reply (.received (.ok (some frame))) now)
      (judge shared h raw [.took h.transport frame]) := by
  unfold judge
  split
  · rename_i cause invalid
    exact .rejected text invalid
  · rename_i context valid
    exact .accepted text valid

/-- An answer is judged, whichever kind of frame brings it. -/
lemma advance_of_answer {cfg : Config} {shared : Shared} {h : Handshake} {frame : WireFrame}
    {raw : String} {now : Duration} (text : answer? frame = some raw) :
    (Attempt.acking h).advance cfg shared (.reply (.received (.ok (some frame))) now) =
      some (judge shared h raw [.took h.transport frame]) := by
  cases frame with
  | text s => cases text; rfl
  | binary bytes => cases text; rfl
  | pong => cases text

/-- An attempt goes on by the rules and in no other way. -/
lemma advance_iff {cfg : Config} {shared : Shared} {a : Attempt} {h : Happening} {o : Outcome} :
    a.advance cfg shared h = some o ↔ Step cfg shared a h o := by
  constructor
  · intro goes
    unfold advance at goes
    split at goes
    · split at goes
      · cases goes
      · cases goes; exact .obtaining (Approval.advance_iff.1 ‹_›)
      · cases goes; exact .obtained (Approval.advance_iff.1 ‹_›)
      · cases goes; exact .unobtained (Approval.advance_iff.1 ‹_›)
    · cases goes; exact .opened
    · cases goes; exact .unopened
    · cases goes; exact .unopenedLate
    · cases goes; exact .sent
    · cases goes; exact .unsent
    · split at goes
      · cases goes; exact .ponged
      · cases goes; exact .of_judge rfl
      · cases goes; exact .of_judge rfl
    · cases goes; exact .ended
    · cases goes; exact .unreceived
    · cases goes; exact .unanswered
    · cases goes; exact .abandoned
    · cases goes; exact .abandonedLate
    · cases goes
  · intro st
    cases st with
    | obtaining st => simp [advance, Approval.advance_iff.2 st]
    | obtained st => simp [advance, Approval.advance_iff.2 st, dial]
    | unobtained st => simp [advance, Approval.advance_iff.2 st]
    | accepted text valid => simp [advance_of_answer text, judge, valid]
    | rejected text invalid => simp [advance_of_answer text, judge, invalid, abandon]
    | _ => rfl

/-- An attempt does not notice the signal to stop; its call does. -/
lemma Step.ne_cancelled {cfg : Config} {shared : Shared} {a : Attempt} {h : Happening}
    {o : Outcome} (st : Step cfg shared a h o) : h ≠ .cancelled := by
  cases st <;> exact nofun

/-- An attempt leaves the slot and the signal to stop alone. -/
lemma Step.shared_eq {cfg : Config} {shared : Shared} {a : Attempt} {h : Happening} {o : Outcome}
    (st : Step cfg shared a h o) :
    o.shared.slot = shared.slot ∧ o.shared.stopped = shared.stopped := by
  cases st with
  | opened => simp [Shared.addTransport]
  | accepted => simp
  | _ => exact ⟨rfl, rfl⟩

end Attempt

namespace Connect

/-- The rules by which a call that connects goes on. -/
inductive Step (cfg : Config) (shared : Shared) : Connect → Happening → Outcome → Prop where
  | halted {retry carried} (stopped : shared.stopped = true) :
    Step cfg shared (.checking retry carried) .proceed ⟨shared, halted, []⟩
  | cleared {retry carried} (free : shared.stopped = false) :
    Step cfg shared (.checking retry carried) .proceed ⟨shared, .announcing retry carried, []⟩
  | announced {retry carried} :
    Step cfg shared (.announcing retry carried) .proceed
      ⟨(shared.setState .connecting).1, .launching retry carried,
        (shared.setState .connecting).2 ++ [.counted .connectAttempts,
          .noted (.connecting cfg.url (retry.failures + 1) retry.plan.attempts)]⟩
  | unlaunched {retry carried} (stopped : shared.stopped = true) :
    Step cfg shared (.launching retry carried) .cancelled ⟨shared, halted, []⟩
  | launched {retry carried} :
    Step cfg shared (.launching retry carried) .proceed
      ⟨shared, .attempting retry (Attempt.begin cfg carried).1, (Attempt.begin cfg carried).2⟩
  | dropped {retry a} (stopped : shared.stopped = true) :
    Step cfg shared (.attempting retry a) .cancelled ⟨shared, halted, []⟩
  | attempting {retry a h shared' a' effects}
      (st : Attempt.Step cfg shared a h ⟨shared', .waits a', effects⟩) :
    Step cfg shared (.attempting retry a) h ⟨shared', .attempting retry a', effects⟩
  | succeeded {retry a h shared' session effects}
      (st : Attempt.Step cfg shared a h ⟨shared', .done (.ok session), effects⟩) :
    Step cfg shared (.attempting retry a) h ⟨shared', .parking session, effects⟩
  | failed {retry a h shared' cause effects}
      (st : Attempt.Step cfg shared a h ⟨shared', .done (.error cause), effects⟩) :
    Step cfg shared (.attempting retry a) h (failed cfg shared' retry cause effects)
  | reissuing {retry stage r now stage' effects}
      (st : Approval.Step stage r (.waits stage') effects) :
    Step cfg shared (.reissuing retry stage) (.reply r now)
      ⟨shared, .reissuing retry stage', effects⟩
  | reissued {retry stage r now key effects}
      (st : Approval.Step stage r (.done (.ok key)) effects) :
    Step cfg shared (.reissuing retry stage) (.reply r now)
      ⟨shared, .deciding retry (some key), effects⟩
  | unreissued {retry stage r now e effects}
      (st : Approval.Step stage r (.done (.error e)) effects) :
    Step cfg shared (.reissuing retry stage) (.reply r now)
      ⟨shared, .deciding retry none, effects ++ [.noted (.reissueFailed e)]⟩
  | exhausted {retry carried draw retry'} (spent : retry.fail draw = (retry', none)) :
    Step cfg shared (.deciding retry carried) (.drawn draw)
      ⟨shared, .finished (.error (.exhausted retry'.failures)), []⟩
  | unpausable {retry carried draw retry' e}
      (refused : retry.fail draw = (retry', some (.error e))) :
    Step cfg shared (.deciding retry carried) (.drawn draw) ⟨shared, .crashed (.noPause e), []⟩
  | paused {retry carried draw retry' delay}
      (allowed : retry.fail draw = (retry', some (.ok delay))) :
    Step cfg shared (.deciding retry carried) (.drawn draw)
      ⟨shared, .pausing retry' carried delay, [.noted (.retrying delay)]⟩
  | woken {retry carried delay} (stopped : shared.stopped = true) :
    Step cfg shared (.pausing retry carried delay) .cancelled ⟨shared, halted, []⟩
  | resumed {retry carried delay} :
    Step cfg shared (.pausing retry carried delay) .elapsed ⟨shared, .checking retry carried, []⟩
  | parked {session} (empty : shared.slot = none) :
    Step cfg shared (.parking session) .proceed
      ⟨{ shared with slot := some session }, .confirming session.codec.contextCount, []⟩
  | parkedOver {session old} (full : shared.slot = some old) :
    Step cfg shared (.parking session) .proceed
      ⟨{ shared with slot := some session },
        .replacing session.codec.contextCount old.transport, [.began (.close old.transport)]⟩
  | replaced {encrypted t result now} :
    Step cfg shared (.replacing encrypted t) (.reply (.closed result) now)
      ⟨shared, .confirming encrypted, closeNotices result⟩
  | replacedLate {encrypted t} :
    Step cfg shared (.replacing encrypted t) .expired
      ⟨shared, .confirming encrypted, [.noted (.closeTimedOut cfg.closeTimeout)]⟩
  | revoked {encrypted} (stopped : shared.stopped = true) :
    Step cfg shared (.confirming encrypted) .proceed ⟨shared, .withdrawing, []⟩
  | confirmed {encrypted} (free : shared.stopped = false) :
    Step cfg shared (.confirming encrypted) .proceed ⟨shared, .publishing encrypted, []⟩
  | gone (empty : shared.slot = none) :
    Step cfg shared .withdrawing .proceed ⟨{ shared with slot := none }, halted, []⟩
  | withdrawn {session} (full : shared.slot = some session) :
    Step cfg shared .withdrawing .proceed
      ⟨{ shared with slot := none }, .discarding session.transport,
        [.began (.close session.transport)]⟩
  | discarded {t result now} :
    Step cfg shared (.discarding t) (.reply (.closed result) now)
      ⟨shared, halted, closeNotices result⟩
  | discardedLate {t} :
    Step cfg shared (.discarding t) .expired
      ⟨shared, halted, [.noted (.closeTimedOut cfg.closeTimeout)]⟩
  | published {encrypted} :
    Step cfg shared (.publishing encrypted) .proceed
      ⟨(shared.setState .connected).1, .finished (.ok ()),
        (shared.setState .connected).2 ++
          [.noted (.subscribed cfg.subscriptions.length encrypted)]⟩

/-- A failed attempt leads to the replacement of the key, or at once to the decision on what to do
next. -/
lemma failed_cases (cfg : Config) (shared : Shared) (retry : Retry) (cause : ClientError)
    (effects : List Effect) :
    (∃ rejection, cause.reissueCause? cfg.reissueCodes = some rejection ∧
        Connect.failed cfg shared retry cause effects =
          ⟨(shared.setState .disconnected).1, .reissuing retry Approval.reissue,
            effects ++ (shared.setState .disconnected).2 ++
              [.counted (.connectFailures cause.reason),
                .noted (.attemptFailed cause (retry.failures + 1))] ++
              [.noted (.keyRejected rejection), .began .issueKey]⟩) ∨
      (cause.reissueCause? cfg.reissueCodes = none ∧
        Connect.failed cfg shared retry cause effects =
          ⟨(shared.setState .disconnected).1, .deciding retry none,
            effects ++ (shared.setState .disconnected).2 ++
              [.counted (.connectFailures cause.reason),
                .noted (.attemptFailed cause (retry.failures + 1))]⟩) := by
  unfold Connect.failed
  dsimp only
  split
  · rename_i rejection calls
    exact .inl ⟨rejection, calls, rfl⟩
  · rename_i calls
    exact .inr ⟨calls, rfl⟩

/-- A failed attempt changes only the connection state. -/
@[simp] lemma failed_shared {cfg : Config} {shared : Shared} {retry : Retry} {cause : ClientError}
    {effects : List Effect} :
    (Connect.failed cfg shared retry cause effects).shared = (shared.setState .disconnected).1 := by
  obtain ⟨rejection, -, e⟩ | ⟨-, e⟩ := failed_cases cfg shared retry cause effects <;> rw [e]

/-- What is seen of a failed attempt concerns nobody who looks for neither notices, counts,
publications nor requests for a key. -/
lemma filterMap_failed {α : Type} {f : Effect → Option α} (unnoted : ∀ n, f (.noted n) = none)
    (uncounted : ∀ m, f (.counted m) = none) (unpublished : ∀ x, f (.published x) = none)
    (unissued : f (.began .issueKey) = none) {cfg : Config} {shared : Shared} {retry : Retry}
    {cause : ClientError} {effects : List Effect} :
    (Connect.failed cfg shared retry cause effects).effects.filterMap f = effects.filterMap f := by
  have state : (shared.setState .disconnected).2.filterMap f = [] :=
    filterMap_setState (fun _ _ => unnoted _) unpublished
  obtain ⟨rejection, -, e⟩ | ⟨-, e⟩ := failed_cases cfg shared retry cause effects
  · rw [e]
    simp [state, unnoted, uncounted, unissued]
  · rw [e]
    simp [state, unnoted, uncounted]

/-- A call goes on with its attempt, unless the signal to stop comes first. -/
lemma advance_attempting {cfg : Config} {shared : Shared} {retry : Retry} {a : Attempt}
    {h : Happening} (ne : h ≠ .cancelled) :
    (attempting retry a).advance cfg shared h =
      match a.advance cfg shared h with
      | none => none
      | some ⟨shared, .waits a, effects⟩ => some ⟨shared, .attempting retry a, effects⟩
      | some ⟨shared, .done (.ok session), effects⟩ => some ⟨shared, .parking session, effects⟩
      | some ⟨shared, .done (.error cause), effects⟩ =>
        some (failed cfg shared retry cause effects) := by
  -- the signal to stop is matched before the attempt is asked
  cases h with
  | cancelled => exact absurd rfl ne
  | _ => rfl

/-- A call that connects goes on by the rules and in no other way. -/
lemma advance_iff {cfg : Config} {shared : Shared} {c : Connect} {h : Happening} {o : Outcome} :
    c.advance cfg shared h = some o ↔ Step cfg shared c h o := by
  constructor
  · intro goes
    unfold advance at goes
    split at goes
    · cases goes
      split
      · exact .halted ‹_›
      · rename_i free
        exact .cleared (Bool.eq_false_iff.2 free)
    · cases goes; exact .announced
    · split at goes
      · cases goes; exact .unlaunched ‹_›
      · cases goes
    · cases goes; exact .launched
    · split at goes
      · cases goes; exact .dropped ‹_›
      · cases goes
    · split at goes
      · cases goes
      · cases goes; exact .attempting (Attempt.advance_iff.1 ‹_›)
      · cases goes; exact .succeeded (Attempt.advance_iff.1 ‹_›)
      · cases goes; exact .failed (Attempt.advance_iff.1 ‹_›)
    · split at goes
      · cases goes
      · cases goes; exact .reissuing (Approval.advance_iff.1 ‹_›)
      · cases goes; exact .reissued (Approval.advance_iff.1 ‹_›)
      · cases goes; exact .unreissued (Approval.advance_iff.1 ‹_›)
    · split at goes
      · cases goes; exact .exhausted ‹_›
      · cases goes; exact .unpausable ‹_›
      · cases goes; exact .paused ‹_›
    · split at goes
      · cases goes; exact .woken ‹_›
      · cases goes
    · cases goes; exact .resumed
    · cases slot : shared.slot with
      | none => simp only [Shared.park, slot] at goes; cases goes; exact .parked slot
      | some old => simp only [Shared.park, slot] at goes; cases goes; exact .parkedOver slot
    · cases goes; exact .replaced
    · cases goes; exact .replacedLate
    · cases goes
      split
      · exact .revoked ‹_›
      · rename_i free
        exact .confirmed (Bool.eq_false_iff.2 free)
    · cases slot : shared.slot with
      | none => simp only [Shared.take, slot] at goes; cases goes; exact .gone slot
      | some session => simp only [Shared.take, slot] at goes; cases goes; exact .withdrawn slot
    · cases goes; exact .discarded
    · cases goes; exact .discardedLate
    · cases goes; exact .published
    · cases goes
  · intro st
    cases st with
    | halted stopped => simp [advance, stopped]
    | cleared free => simp [advance, free]
    | unlaunched stopped => simp [advance, stopped]
    | dropped stopped => simp [advance, stopped]
    | attempting st => rw [advance_attempting st.ne_cancelled, Attempt.advance_iff.2 st]
    | succeeded st => rw [advance_attempting st.ne_cancelled, Attempt.advance_iff.2 st]
    | failed st => rw [advance_attempting st.ne_cancelled, Attempt.advance_iff.2 st]
    | reissuing st => simp [advance, Approval.advance_iff.2 st]
    | reissued st => simp [advance, Approval.advance_iff.2 st]
    | unreissued st => simp [advance, Approval.advance_iff.2 st]
    | exhausted spent => simp [advance, spent]
    | unpausable refused => simp [advance, refused]
    | paused allowed => simp [advance, allowed]
    | woken stopped => simp [advance, stopped]
    | parked empty => simp [advance, Shared.park, empty]
    | parkedOver full => simp [advance, Shared.park, full]
    | revoked stopped => simp [advance, stopped]
    | confirmed free => simp [advance, free]
    | gone empty => simp [advance, Shared.take, empty]
    | withdrawn full => simp [advance, Shared.take, full]
    | _ => rfl

end Connect

end FillFeed.Client
