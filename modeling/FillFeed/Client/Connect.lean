import FillFeed.Client.Attempt

/-!
# Connecting

`Connect` is where a call that connects and subscribes stands. It makes one attempt after the other
within the retry budget, replaces the approval key when the server rejects it, and parks the session
of the attempt that succeeds. The signal to stop is looked at before each attempt, noticed while an
attempt or a pause is waiting, and looked at once more after a session was parked.
-/

namespace FillFeed.Client

/-- Where a call that connects stands: about to do something, or waiting. -/
inductive Connect where
  | checking (retry : Retry) (carried : Option ApprovalKey)
  | announcing (retry : Retry) (carried : Option ApprovalKey)
  | launching (retry : Retry) (carried : Option ApprovalKey)
  | attempting (retry : Retry) (attempt : Attempt)
  | reissuing (retry : Retry) (stage : Approval.Stage)
  | deciding (retry : Retry) (carried : Option ApprovalKey)
  | pausing (retry : Retry) (carried : Option ApprovalKey) (delay : Duration)
  | parking (session : Session)
  | replacing (encrypted : Nat) (old : TransportId)
  | confirming (encrypted : Nat)
  | withdrawing
  | discarding (transport : TransportId)
  | publishing (encrypted : Nat)
  | crashed (cause : Crash)
  | finished (result : Except ClientError Unit)

namespace Connect

/-- What a step of a call leads to. -/
structure Outcome where
  shared : Shared
  next : Connect
  effects : List Effect

/-- The beginning of a call. -/
def start (cfg : Config) : Connect := .checking (Retry.start cfg.retry) none

/-- The end of a call that noticed the signal to stop. -/
def halted : Connect := .finished (.error .stopped)

/-- What a call does about an attempt that failed: it tells and counts the failure, and begins to
replace the key when the failure calls for it. -/
def failed (cfg : Config) (shared : Shared) (retry : Retry) (cause : ClientError)
    (effects : List Effect) : Outcome :=
  let (shared, changes) := shared.setState .disconnected
  let effects := effects ++ changes ++
    [.counted (.connectFailures cause.reason), .noted (.attemptFailed cause (retry.failures + 1))]
  match cause.reissueCause? cfg.reissueCodes with
  | some rejection =>
    ⟨shared, .reissuing retry Approval.reissue,
      effects ++ [.noted (.keyRejected rejection), .began Approval.reissue.call]⟩
  | none => ⟨shared, .deciding retry none, effects⟩

/-- Takes a call on with a happening. -/
def advance (cfg : Config) (shared : Shared) : Connect → Happening → Option Outcome
  | .checking retry carried, .proceed =>
    some ⟨shared, if shared.stopped then halted else .announcing retry carried, []⟩
  | .announcing retry carried, .proceed =>
    let (shared, changes) := shared.setState .connecting
    some ⟨shared, .launching retry carried,
      changes ++ [.counted .connectAttempts,
        .noted (.connecting cfg.url (retry.failures + 1) retry.plan.attempts)]⟩
  | .launching _ _, .cancelled => if shared.stopped then some ⟨shared, halted, []⟩ else none
  | .launching retry carried, .proceed =>
    let (attempt, effects) := Attempt.begin cfg carried
    some ⟨shared, .attempting retry attempt, effects⟩
  | .attempting _ _, .cancelled => if shared.stopped then some ⟨shared, halted, []⟩ else none
  | .attempting retry attempt, h =>
    match attempt.advance cfg shared h with
    | none => none
    | some ⟨shared, .waits attempt, effects⟩ =>
      some ⟨shared, .attempting retry attempt, effects⟩
    | some ⟨shared, .done (.ok session), effects⟩ => some ⟨shared, .parking session, effects⟩
    | some ⟨shared, .done (.error cause), effects⟩ => some (failed cfg shared retry cause effects)
  | .reissuing retry stage, .reply r _ =>
    match Approval.advance stage r with
    | none => none
    | some (.waits stage, effects) => some ⟨shared, .reissuing retry stage, effects⟩
    | some (.done (.ok key), effects) => some ⟨shared, .deciding retry (some key), effects⟩
    | some (.done (.error e), effects) =>
      some ⟨shared, .deciding retry none, effects ++ [.noted (.reissueFailed e)]⟩
  | .deciding retry carried, .drawn draw =>
    match retry.fail draw with
    | (retry, none) => some ⟨shared, .finished (.error (.exhausted retry.failures)), []⟩
    | (_, some (.error e)) => some ⟨shared, .crashed (.noPause e), []⟩
    | (retry, some (.ok delay)) =>
      some ⟨shared, .pausing retry carried delay, [.noted (.retrying delay)]⟩
  | .pausing _ _ _, .cancelled => if shared.stopped then some ⟨shared, halted, []⟩ else none
  | .pausing retry carried _, .elapsed => some ⟨shared, .checking retry carried, []⟩
  | .parking session, .proceed =>
    match shared.park session with
    | (shared, none) => some ⟨shared, .confirming session.codec.contextCount, []⟩
    | (shared, some old) =>
      some ⟨shared, .replacing session.codec.contextCount old.transport,
        [.began (.close old.transport)]⟩
  | .replacing encrypted _, .reply (.closed result) _ =>
    some ⟨shared, .confirming encrypted, closeNotices result⟩
  | .replacing encrypted _, .expired =>
    some ⟨shared, .confirming encrypted, [.noted (.closeTimedOut cfg.closeTimeout)]⟩
  | .confirming encrypted, .proceed =>
    some ⟨shared, if shared.stopped then .withdrawing else .publishing encrypted, []⟩
  | .withdrawing, .proceed =>
    match shared.take with
    | (shared, none) => some ⟨shared, halted, []⟩
    | (shared, some session) =>
      some ⟨shared, .discarding session.transport, [.began (.close session.transport)]⟩
  | .discarding _, .reply (.closed result) _ => some ⟨shared, halted, closeNotices result⟩
  | .discarding _, .expired => some ⟨shared, halted, [.noted (.closeTimedOut cfg.closeTimeout)]⟩
  | .publishing encrypted, .proceed =>
    let (shared, changes) := shared.setState .connected
    some ⟨shared, .finished (.ok ()),
      changes ++ [.noted (.subscribed cfg.subscriptions.length encrypted)]⟩
  | _, _ => none

end Connect

end FillFeed.Client
