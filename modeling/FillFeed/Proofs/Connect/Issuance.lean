import Mathlib
import FillFeed.Proofs.Connect.Budget

/-!
# Which key an attempt uses

An attempt begins with the key that was issued in place of a rejected one, or asks for a key; and a
key is issued when one is to be replaced, or when the cache has none. What a call does about keys is
kept as a list of `KeyEvent`s. `Approval.Issues` and `Approval.Gets` say what a request for a key
enters in the list, `Attempt.Account` what an attempt enters, and `Connect.Book` what the attempts
enter that are over; the book also says which key is carried into the next attempt.

Each step of a call extends the list accordingly (`Connect.Step.record`), and the list of any run
has the form from which the number of keys issued is read off (`keys_issued_as_needed`).
-/

namespace FillFeed

/-- What is kept of a call that connects: its attempts, what it asks of its collaborators to get and
to use a key, what is answered about keys, and why attempts fail. -/
inductive KeyEvent where
  | begins
  | issues (reason : IssueReason)
  | calls (call : Call)
  | hears (reply : Reply)
  | fails (cause : ClientError)

namespace KeyEvent

/-- Whether a key is issued. -/
def isIssue : KeyEvent → Bool
  | .issues _ => true
  | _ => false

/-- Whether a key is issued in place of another one. -/
def isReissue : KeyEvent → Bool
  | .issues .reissue => true
  | _ => false

/-- Whether the cache gives no text that holds a key: it fails, is empty, or gives a blank text. -/
def isMiss : KeyEvent → Bool
  | .hears (.cacheRead (.ok (some raw))) => Text.trim raw = ""
  | .hears (.cacheRead _) => true
  | _ => false

/-- Whether an attempt fails for an ack whose message code is not blank and among the given ones. -/
def isRejection (codes : List String) : KeyEvent → Bool
  | .fails (.rejected r) => Text.trim r.code ≠ "" ∧ Text.trim r.code ∈ codes
  | _ => false

end KeyEvent

/-- What a reply says about keys. -/
def Reply.keyEvent? : Reply → Option KeyEvent
  | .cacheRead result => some (.hears (.cacheRead result))
  | .keyIssued result => some (.hears (.keyIssued result))
  | .cacheWritten result => some (.hears (.cacheWritten result))
  | _ => none

/-- What an effect says about keys, where a key that is issued is issued for a reason. -/
def Effect.keyEvent? (reason : IssueReason) : Effect → Option KeyEvent
  | .counted .connectAttempts => some .begins
  | .began .issueKey => some (.issues reason)
  | .began .readCache => some (.calls .readCache)
  | .began (.writeCache key lifetime) => some (.calls (.writeCache key lifetime))
  | .began (.openTransport url) => some (.calls (.openTransport url))
  | .began (.sendText t text) => some (.calls (.sendText t text))
  | .noted (.attemptFailed cause _) => some (.fails cause)
  | _ => none

/-- What is kept of a happening. -/
def Client.Happening.keyEvents : Client.Happening → List KeyEvent
  | .reply r _ => r.keyEvent?.toList
  | _ => []

/-- A list in which every reissue goes back to a rejection, and every other key that is issued to a
cache that had none. -/
structure Balanced (codes : List String) (es : List KeyEvent) : Prop where
  reissues : es.countP KeyEvent.isReissue = es.countP (KeyEvent.isRejection codes)
  issues : es.countP KeyEvent.isIssue =
    es.countP (KeyEvent.isRejection codes) + es.countP KeyEvent.isMiss

/-- An event that concerns none of the counts. -/
structure KeyEvent.Plain (codes : List String) (e : KeyEvent) : Prop where
  unissued : e.isIssue = false
  unreissued : e.isReissue = false
  unmissed : e.isMiss = false
  unrejected : e.isRejection codes = false

section

variable {codes : List String} {e : KeyEvent} {es es' : List KeyEvent}

/-- A list whose events concern none of the counts is balanced. -/
lemma Balanced.of_plain (plain : ∀ e ∈ es, e.Plain codes) : Balanced codes es := by
  have none (f : KeyEvent → Bool) (never : ∀ e ∈ es, f e = false) : es.countP f = 0 := by
    rw [List.countP_eq_zero]
    intro e mem
    simp [never e mem]
  constructor
  · rw [none _ fun e mem => (plain e mem).unreissued, none _ fun e mem => (plain e mem).unrejected]
  · rw [none _ fun e mem => (plain e mem).unissued, none _ fun e mem => (plain e mem).unrejected,
      none _ fun e mem => (plain e mem).unmissed]

/-- Balanced lists make a balanced list. -/
lemma Balanced.append (first : Balanced codes es) (second : Balanced codes es') :
    Balanced codes (es ++ es') := by
  constructor
  · rw [List.countP_append, List.countP_append, first.reissues, second.reissues]
  · rw [List.countP_append, List.countP_append, List.countP_append, first.issues, second.issues]
    omega

/-- An event that concerns none of the counts keeps a list balanced. -/
lemma Balanced.cons (plain : e.Plain codes) (others : Balanced codes es) :
    Balanced codes (e :: es) := by
  have first : Balanced codes [e] := by
    refine .of_plain fun e mem => ?_
    cases List.mem_singleton.1 mem
    exact plain
  exact first.append others

end

namespace Approval

/-- What a request for a new key enters, up to where it stands or to its answer: the issuer is
called, a key that it gives is written to the cache, and is the answer whatever comes of that. -/
inductive Issues (reason : IssueReason) : List KeyEvent → Progress → Prop where
  | issuing : Issues reason [.issues reason] (.waits (.issuing reason))
  | refused {e} :
    Issues reason [.issues reason, .hears (.keyIssued (.error e))] (.done (.error e))
  | caching {key} :
    Issues reason [.issues reason, .hears (.keyIssued (.ok key)),
      .calls (.writeCache key ApprovalKey.cacheLifetime)] (.waits (.caching key))
  | issued {key result} :
    Issues reason [.issues reason, .hears (.keyIssued (.ok key)),
      .calls (.writeCache key ApprovalKey.cacheLifetime), .hears (.cacheWritten result)]
      (.done (.ok key))

/-- What a request enters that prefers the cached key: the cache is read, and a new key is asked for
only if that gives none. -/
inductive Gets : List KeyEvent → Progress → Prop where
  | reading : Gets [.calls .readCache] (.waits .reading)
  | cached {raw key} (text : ApprovalKey.parse? raw = some key) :
    Gets [.calls .readCache, .hears (.cacheRead (.ok (some raw)))] (.done (.ok key))
  | missed {result es p} (miss : (KeyEvent.hears (.cacheRead result)).isMiss = true)
      (issues : Issues .cacheMiss es p) :
    Gets (.calls .readCache :: .hears (.cacheRead result) :: es) p

/-- A request for a new key issues one, for its reason, and enters neither misses nor rejections. -/
lemma Issues.counts {reason : IssueReason} {es : List KeyEvent} {p : Progress}
    (issues : Issues reason es p) (codes : List String) :
    es.countP KeyEvent.isIssue = 1 ∧
      es.countP KeyEvent.isReissue = [KeyEvent.issues reason].countP KeyEvent.isReissue ∧
      es.countP KeyEvent.isMiss = 0 ∧ es.countP (KeyEvent.isRejection codes) = 0 := by
  cases issues <;> cases reason <;> exact ⟨rfl, rfl, rfl, rfl⟩

/-- A request that prefers the cached key issues one exactly when the cache gives none. -/
lemma Gets.balanced {codes : List String} {es : List KeyEvent} {p : Progress} (gets : Gets es p) :
    Balanced codes es := by
  have reading : (KeyEvent.calls .readCache).Plain codes := ⟨rfl, rfl, rfl, rfl⟩
  cases gets with
  | reading => exact .cons reading ⟨rfl, rfl⟩
  | @cached raw key text =>
    have full : (KeyEvent.hears (.cacheRead (.ok (some raw)))).isMiss = false := by
      refine decide_eq_false fun blank => ?_
      cases text.symm.trans (ApprovalKey.parse?_eq_none.2 blank)
    exact .cons reading (.cons ⟨rfl, rfl, full, rfl⟩ ⟨rfl, rfl⟩)
  | missed miss issues =>
    obtain ⟨one, none, unmissed, unrejected⟩ := issues.counts codes
    refine .cons reading ⟨?_, ?_⟩
    · rw [List.countP_cons_of_neg Bool.false_ne_true, List.countP_cons_of_neg Bool.false_ne_true,
        none, unrejected]
      rfl
    · rw [List.countP_cons_of_neg Bool.false_ne_true, List.countP_cons_of_neg Bool.false_ne_true,
        List.countP_cons_of_pos miss, one, unmissed, unrejected]

/-- A step of a request for a new key enters what such a request enters. -/
lemma Step.issues {stage : Stage} {r : Reply} {p : Progress} {effects : List Effect}
    {reason : IssueReason} {es : List KeyEvent} (st : Step stage r p effects)
    (issues : Issues reason es (.waits stage)) :
    Issues reason (es ++ (r.keyEvent?.toList ++ effects.filterMap (Effect.keyEvent? reason)))
      p := by
  cases issues with
  | issuing =>
    cases st with
    | issued => exact .caching
    | refused => exact .refused
  | caching =>
    cases st with
    | written => exact .issued
    | unwritten => exact .issued

/-- A step of a request that prefers the cached key enters what such a request enters. -/
lemma Step.gets {stage : Stage} {r : Reply} {p : Progress} {effects : List Effect}
    {es : List KeyEvent} (st : Step stage r p effects) (gets : Gets es (.waits stage)) :
    Gets (es ++ (r.keyEvent?.toList ++ effects.filterMap (Effect.keyEvent? .cacheMiss))) p := by
  cases gets with
  | reading =>
    cases st with
    | hit read => exact .cached read
    | blank read =>
      have blank := ApprovalKey.parse?_eq_none.1 read
      exact .missed (decide_eq_true blank) .issuing
    | miss => exact .missed rfl .issuing
    | unread => exact .missed rfl .issuing
  | missed miss issues => exact .missed miss (st.issues issues)

/-- The last step of a request for a key asks for nothing more. -/
lemma Step.quiet_of_done {stage : Stage} {r : Reply} {result : Except IssuanceError ApprovalKey}
    {effects : List Effect} {reason : IssueReason} (st : Step stage r (.done result) effects) :
    effects.filterMap (Effect.keyEvent? reason) = [] := by
  cases st <;> rfl

end Approval

namespace Client

/-- A change of the state enters nothing. -/
@[simp] lemma filterMap_keyEvent_setState {shared : Shared} {next : ConnectionState}
    {reason : IssueReason} : (shared.setState next).2.filterMap (Effect.keyEvent? reason) = [] :=
  filterMap_setState (fun _ _ => rfl) fun _ => rfl

/-- What is told about a closing enters nothing. -/
@[simp] lemma filterMap_keyEvent_closeNotices {result : Except TransportError Unit}
    {reason : IssueReason} : (closeNotices result).filterMap (Effect.keyEvent? reason) = [] :=
  filterMap_closeNotices fun _ => rfl

namespace Attempt

/-- How an attempt gets its key: it is carried over, or the answer to a request. -/
inductive Obtains : Option ApprovalKey → List KeyEvent → ApprovalKey → Prop where
  | carried {key} : Obtains (some key) [] key
  | got {es key} (gets : Approval.Gets es (.done (.ok key))) : Obtains none es key

/-- An attempt that has its key, or is over. -/
def Progress.Keeps (key : ApprovalKey) : Progress → Prop
  | .waits (.credential _) => False
  | .waits (.opening k) => k = key
  | .waits (.sending h) | .waits (.acking h) => h.key = key
  | .waits (.abandoning _ _) | .done _ => True

/-- Only requests to subscribe with a key. -/
def Sends (key : ApprovalKey) (es : List KeyEvent) : Prop :=
  ∀ e ∈ es, ∃ t s, e = .calls (.sendText t (Request.subscribe key s).write)

/-- What an attempt enters that some key was carried into, or none. Without a key it opens no
transport; with one it opens a transport and makes its requests with this key. -/
inductive Account (cfg : Config) (carried : Option ApprovalKey) :
    List KeyEvent → Progress → Prop where
  | asking {es stage} (none : carried = none) (gets : Approval.Gets es (.waits stage)) :
    Account cfg carried es (.waits (.credential stage))
  | unkeyed {es e} (none : carried = none) (gets : Approval.Gets es (.done (.error e))) :
    Account cfg carried es (.done (.error (.credential e)))
  | keyed {es key sent p} (obtains : Obtains carried es key) (sends : Sends key sent)
      (keeps : p.Keeps key) :
    Account cfg carried (es ++ .calls (.openTransport cfg.url) :: sent) p

section

variable {cfg : Config} {shared : Shared} {a : Attempt} {h : Happening} {o : Outcome}
  {key : ApprovalKey} {reason : IssueReason}

/-- Where nothing is sent, nothing is sent with another key. -/
lemma Sends.nil : Sends key [] := by
  intro e mem
  exact absurd mem List.not_mem_nil

/-- Subscribing enters nothing but a request with the key, and goes on with the key. -/
lemma subscribe_sends_only {t : TransportId} {codec : Codec} {effects : List Effect}
    (rest : List Subscription) (quiet : effects.filterMap (Effect.keyEvent? reason) = []) :
    Sends key ((subscribe shared key t codec effects rest).effects.filterMap
        (Effect.keyEvent? reason)) ∧
      (subscribe shared key t codec effects rest).progress.Keeps key := by
  obtain e | ⟨s, rest', -, e⟩ := subscribe_cases shared key t codec effects rest
  · rw [e, quiet]
    exact ⟨.nil, trivial⟩
  · rw [e, List.filterMap_append, quiet]
    refine ⟨?_, rfl⟩
    intro e mem
    exact ⟨t, s, List.mem_singleton.1 mem⟩

/-- An attempt that has its key goes on with it. -/
lemma Step.sends_only (st : Step cfg shared a h o) (keeps : (Progress.waits a).Keeps key) :
    Sends key (h.keyEvents ++ o.effects.filterMap (Effect.keyEvent? reason)) ∧
      o.progress.Keeps key := by
  cases st with
  | obtaining | obtained | unobtained => exact keeps.elim
  | opened =>
    cases keeps
    refine subscribe_sends_only _ ?_
    rw [List.filterMap_cons_none rfl, filterMap_keyEvent_setState]
  | accepted =>
    cases keeps
    exact subscribe_sends_only _ rfl
  | sent | ponged => exact ⟨.nil, keeps⟩
  | abandoned =>
    rw [filterMap_keyEvent_closeNotices]
    exact ⟨.nil, trivial⟩
  | _ => exact ⟨.nil, trivial⟩

/-- What an attempt does is entered in its account. -/
lemma Step.account {carried : Option ApprovalKey} {es : List KeyEvent}
    (st : Step cfg shared a h o) (account : Account cfg carried es (.waits a)) :
    Account cfg carried
      (es ++ (h.keyEvents ++ o.effects.filterMap (Effect.keyEvent? .cacheMiss))) o.progress := by
  cases account with
  | asking none gets =>
    cases st with
    | obtaining st => exact .asking none (st.gets gets)
    | obtained st =>
      subst none
      have got := Obtains.got (st.gets gets)
      have opening := @Account.keyed cfg _ _ _ [] (.waits (.opening _)) got .nil rfl
      simpa [Happening.keyEvents, Effect.keyEvent?, List.filterMap_cons] using opening
    | unobtained st => exact .unkeyed none (st.gets gets)
  | keyed obtains sends keeps =>
    obtain ⟨more, kept⟩ := st.sends_only keeps
    rw [List.append_assoc, List.cons_append]
    refine .keyed obtains ?_ kept
    intro e mem
    obtain before | now := List.mem_append.1 mem
    · exact sends e before
    · exact more e now

/-- The last step of an attempt enters nothing. -/
lemma Step.quiet_of_done {result : Except ClientError Session} (st : Step cfg shared a h o)
    (ends : o.progress = .done result) :
    o.effects.filterMap (Effect.keyEvent? reason) = [] := by
  cases st with
  | unobtained st => exact st.quiet_of_done
  | @opened key =>
    obtain e | ⟨s, rest, -, e⟩ := subscribe_cases _ key _ _ _ cfg.subscriptions
    · rw [e, List.filterMap_cons_none rfl, filterMap_keyEvent_setState]
    · cases (congrArg Outcome.progress e).symm.trans ends
  | @accepted hs =>
    obtain e | ⟨s, rest, -, e⟩ := subscribe_cases shared hs.key hs.transport _ _ hs.rest
    · rw [e]
      rfl
    · cases (congrArg Outcome.progress e).symm.trans ends
  | abandoned => exact filterMap_keyEvent_closeNotices
  | unopened | unopenedLate | abandonedLate => rfl
  | _ => cases ends

end

end Attempt

namespace Connect

/-- Why a call issues keys where it stands. -/
def reason : Connect → IssueReason
  | .reissuing _ _ => .reissue
  | _ => .cacheMiss

/-- What a deed enters. -/
def keyEvents (d : Deed Connect) : List KeyEvent :=
  d.met.keyEvents ++ d.did.filterMap (Effect.keyEvent? d.goes.reason)

/-- All that some deeds enter. -/
def keyHistory (ds : List (Deed Connect)) : List KeyEvent := ds.flatMap keyEvents

/-- What the attempts enter that have failed, with the key that the next one begins with: the key
that was issued after a rejection, and none after any other failure. -/
inductive Book (cfg : Config) : List KeyEvent → Option ApprovalKey → Prop where
  | nothing : Book cfg [] none
  | failed {log carried es cause} (book : Book cfg log carried)
      (account : Attempt.Account cfg carried es (.done (.error cause)))
      (other : (KeyEvent.fails cause).isRejection cfg.reissueCodes = false) :
    Book cfg (log ++ .begins :: (es ++ [.fails cause])) none
  | replaced {log carried es cause es' result} (book : Book cfg log carried)
      (account : Attempt.Account cfg carried es (.done (.error cause)))
      (rejection : (KeyEvent.fails cause).isRejection cfg.reissueCodes = true)
      (issues : Approval.Issues .reissue es' (.done result)) :
    Book cfg (log ++ .begins :: (es ++ .fails cause :: es')) result.toOption

/-- What a call has entered since its last failed attempt, where some key is carried over. -/
inductive Underway (cfg : Config) (carried : Option ApprovalKey) :
    List KeyEvent → Connect → Prop where
  | checking {retry} : Underway cfg carried [] (.checking retry carried)
  | announcing {retry} : Underway cfg carried [] (.announcing retry carried)
  | launching {retry} : Underway cfg carried [.begins] (.launching retry carried)
  | attempting {es retry a} (account : Attempt.Account cfg carried es (.waits a)) :
    Underway cfg carried (.begins :: es) (.attempting retry a)
  | reissuing {es cause es' retry stage}
      (account : Attempt.Account cfg carried es (.done (.error cause)))
      (rejection : (KeyEvent.fails cause).isRejection cfg.reissueCodes = true)
      (issues : Approval.Issues .reissue es' (.waits stage)) :
    Underway cfg carried (.begins :: (es ++ .fails cause :: es')) (.reissuing retry stage)
  | deciding {retry} : Underway cfg carried [] (.deciding retry carried)
  | pausing {retry delay} : Underway cfg carried [] (.pausing retry carried delay)
  | exhausted {n} : Underway cfg carried [] (.finished (.error (.exhausted n)))
  | crashed {cause} : Underway cfg carried [] (.crashed cause)
  | parking {es session} (account : Attempt.Account cfg carried es (.done (.ok session))) :
    Underway cfg carried (.begins :: es) (.parking session)
  | replacing {es session encrypted t}
      (account : Attempt.Account cfg carried es (.done (.ok session))) :
    Underway cfg carried (.begins :: es) (.replacing encrypted t)
  | confirming {es session encrypted}
      (account : Attempt.Account cfg carried es (.done (.ok session))) :
    Underway cfg carried (.begins :: es) (.confirming encrypted)
  | publishing {es session encrypted}
      (account : Attempt.Account cfg carried es (.done (.ok session))) :
    Underway cfg carried (.begins :: es) (.publishing encrypted)
  | withdrawing {es session} (account : Attempt.Account cfg carried es (.done (.ok session))) :
    Underway cfg carried (.begins :: es) .withdrawing
  | discarding {es session t} (account : Attempt.Account cfg carried es (.done (.ok session))) :
    Underway cfg carried (.begins :: es) (.discarding t)
  | established {es session} (account : Attempt.Account cfg carried es (.done (.ok session))) :
    Underway cfg carried (.begins :: es) (.finished (.ok ()))
  | halted {es c} (before : Underway cfg carried es c) : Underway cfg carried es halted

/-- What a step that enters some events leads to: what is under way goes on, or an attempt has failed
and goes into the book. -/
def Onward (cfg : Config) (carried : Option ApprovalKey) (rest entered : List KeyEvent)
    (next : Connect) : Prop :=
  Underway cfg carried (rest ++ entered) next ∨
    ∃ carried', Underway cfg carried' [] next ∧
      ∀ log, Book cfg log carried → Book cfg (log ++ (rest ++ entered)) carried'

/-- The list of a call that stands at a place. -/
def Record (cfg : Config) (es : List KeyEvent) (c : Connect) : Prop :=
  ∃ log carried rest, es = log ++ rest ∧ Book cfg log carried ∧ Underway cfg carried rest c

section

variable {cfg : Config} {shared : Shared} {h : Happening} {carried : Option ApprovalKey}
  {rest : List KeyEvent}

/-- An attempt begins with the key that is carried into it, or by reading the cache. -/
lemma account_begin (cfg : Config) (carried : Option ApprovalKey) :
    Attempt.Account cfg carried
      ((Attempt.begin cfg carried).2.filterMap (Effect.keyEvent? .cacheMiss))
      (.waits (Attempt.begin cfg carried).1) := by
  cases carried with
  | none => exact .asking rfl .reading
  | some key => exact @Attempt.Account.keyed cfg _ _ _ [] _ .carried .nil rfl

/-- A cause that calls for a new key is the rejection of a subscription with a code for it. -/
lemma isRejection_eq (codes : List String) (cause : ClientError) :
    (KeyEvent.fails cause).isRejection codes = (cause.reissueCause? codes).isSome := by
  cases cause with
  | rejected r =>
    rw [Bool.eq_iff_iff]
    simp [KeyEvent.isRejection, ClientError.reissueCause?, Rejection.hasCode]
  | _ => rfl

/-- What a failed attempt enters: why it failed, and that a new key is issued if that calls for
one. -/
lemma filterMap_keyEvent_failed {retry : Retry} {cause : ClientError} {effects : List Effect}
    (quiet : ∀ reason, effects.filterMap (Effect.keyEvent? reason) = []) :
    ((KeyEvent.fails cause).isRejection cfg.reissueCodes = true ∧
        (failed cfg shared retry cause effects).next = .reissuing retry Approval.reissue ∧
        (failed cfg shared retry cause effects).effects.filterMap (Effect.keyEvent? .reissue) =
          [.fails cause, .issues .reissue]) ∨
      ((KeyEvent.fails cause).isRejection cfg.reissueCodes = false ∧
        (failed cfg shared retry cause effects).next = .deciding retry none ∧
        (failed cfg shared retry cause effects).effects.filterMap (Effect.keyEvent? .cacheMiss) =
          [.fails cause]) := by
  rw [isRejection_eq]
  obtain ⟨rejection, calls, e⟩ | ⟨other, e⟩ := failed_cases cfg shared retry cause effects
  · refine .inl ⟨by rw [calls]; rfl, by rw [e], ?_⟩
    rw [e]
    simp only [List.filterMap_append, quiet, filterMap_keyEvent_setState]
    rfl
  · refine .inr ⟨by rw [other]; rfl, by rw [e], ?_⟩
    rw [e]
    simp only [List.filterMap_append, quiet, filterMap_keyEvent_setState]
    rfl

/-- A step that enters nothing leaves the list as it is. -/
lemma Underway.quietly {o : Outcome} (under : Underway cfg carried rest o.next)
    (quiet : h.keyEvents ++ o.effects.filterMap (Effect.keyEvent? o.next.reason) = []) :
    Onward cfg carried rest
      (h.keyEvents ++ o.effects.filterMap (Effect.keyEvent? o.next.reason)) o.next := by
  left
  rw [quiet, List.append_nil]
  exact under

/-- An attempt that fails goes into the book, unless a new key is to be issued first. -/
lemma Onward.failed {es last : List KeyEvent} {retry : Retry} {cause : ClientError}
    {effects : List Effect}
    (account : Attempt.Account cfg carried (es ++ last) (.done (.error cause)))
    (quiet : ∀ reason, effects.filterMap (Effect.keyEvent? reason) = []) :
    Onward cfg carried (.begins :: es)
      (last ++ (failed cfg shared retry cause effects).effects.filterMap
        (Effect.keyEvent? (failed cfg shared retry cause effects).next.reason))
      (failed cfg shared retry cause effects).next := by
  obtain ⟨rejection, next, enters⟩ | ⟨other, next, enters⟩ := filterMap_keyEvent_failed quiet
  · left
    rw [next]
    dsimp only [reason]
    rw [enters, List.cons_append, ← List.append_assoc]
    exact .reissuing account rejection .issuing
  · refine .inr ⟨none, ?_, ?_⟩
    · rw [next]
      exact .deciding
    · intro log book
      rw [next]
      dsimp only [reason]
      rw [enters, List.cons_append, ← List.append_assoc]
      exact .failed book account other

/-- Once a new key is issued, or is not, the rejected attempt goes into the book. -/
lemma Onward.replaced {es es' more : List KeyEvent} {retry : Retry} {cause : ClientError}
    {result : Except IssuanceError ApprovalKey}
    (account : Attempt.Account cfg carried es (.done (.error cause)))
    (rejection : (KeyEvent.fails cause).isRejection cfg.reissueCodes = true)
    (issues : Approval.Issues .reissue (es' ++ more) (.done result)) :
    Onward cfg carried (.begins :: (es ++ .fails cause :: es')) more
      (.deciding retry result.toOption) := by
  refine .inr ⟨result.toOption, .deciding, ?_⟩
  intro log book
  simpa using Book.replaced book account rejection issues

/-- A step extends what is under way, or ends a failed attempt and enters it in the book. -/
lemma Step.underway {c : Connect} {o : Outcome} (st : Step cfg shared c h o)
    (under : Underway cfg carried rest c) :
    Onward cfg carried rest
      (h.keyEvents ++ o.effects.filterMap (Effect.keyEvent? o.next.reason)) o.next := by
  cases st with
  | halted | unlaunched | dropped | woken | gone | discardedLate => exact under.halted.quietly rfl
  | discarded => exact under.halted.quietly filterMap_keyEvent_closeNotices
  | cleared => cases under; exact .inl .announcing
  | announced =>
    cases under
    left
    simpa [Happening.keyEvents, filterMap_keyEvent_setState, Effect.keyEvent?,
      List.filterMap_cons] using Underway.launching
  | @launched retry carried =>
    cases under
    exact .inl (.attempting (account_begin cfg carried))
  | attempting st =>
    cases under with
    | attempting account => exact .inl (.attempting (st.account account))
  | succeeded st =>
    cases under with
    | attempting account =>
      have ended := st.account account
      rw [st.quiet_of_done rfl] at ended
      left
      dsimp only
      rw [st.quiet_of_done rfl]
      exact .parking ended
  | failed st =>
    cases under with
    | attempting account =>
      have ended := st.account account
      rw [st.quiet_of_done rfl, List.append_nil] at ended
      exact .failed ended fun reason => st.quiet_of_done rfl
  | reissuing st =>
    cases under with
    | reissuing account rejection issues =>
      left
      simpa [Happening.keyEvents, reason] using
        Underway.reissuing account rejection (st.issues issues)
  | reissued st =>
    cases under with
    | reissuing account rejection issues =>
      have ended := st.issues issues
      rw [st.quiet_of_done] at ended
      dsimp only
      rw [st.quiet_of_done]
      exact .replaced account rejection ended
  | unreissued st =>
    cases under with
    | reissuing account rejection issues =>
      have ended := st.issues issues
      rw [st.quiet_of_done] at ended
      dsimp only
      rw [List.filterMap_append, st.quiet_of_done]
      exact .replaced account rejection ended
  | exhausted => cases under; exact .inl .exhausted
  | unpausable => cases under; exact .inl .crashed
  | paused => cases under; exact .inl .pausing
  | resumed => cases under; exact .inl .checking
  -- after an attempt that succeeds nothing more is entered
  | parked =>
    cases under with
    | parking account => exact (Underway.confirming account).quietly rfl
  | parkedOver =>
    cases under with
    | parking account => exact (Underway.replacing account).quietly rfl
  | replaced =>
    cases under with
    | replacing account =>
      exact (Underway.confirming account).quietly filterMap_keyEvent_closeNotices
  | replacedLate =>
    cases under with
    | replacing account => exact (Underway.confirming account).quietly rfl
  | revoked =>
    cases under with
    | confirming account => exact (Underway.withdrawing account).quietly rfl
  | confirmed =>
    cases under with
    | confirming account => exact (Underway.publishing account).quietly rfl
  | withdrawn =>
    cases under with
    | withdrawing account => exact (Underway.discarding account).quietly rfl
  | published =>
    cases under with
    | publishing account =>
      refine (Underway.established account).quietly ?_
      simp [Happening.keyEvents, List.filterMap_cons, Effect.keyEvent?]

/-- A step extends the list of a call as it should. -/
lemma Step.record {c : Connect} {o : Outcome} {es : List KeyEvent} (st : Step cfg shared c h o)
    (record : Record cfg es c) :
    Record cfg (es ++ (h.keyEvents ++ o.effects.filterMap (Effect.keyEvent? o.next.reason)))
      o.next := by
  obtain ⟨log, carried, rest, rfl, book, under⟩ := record
  obtain more | ⟨carried', anew, enters⟩ := st.underway under
  · exact ⟨log, carried, _, by rw [List.append_assoc], book, more⟩
  · exact ⟨_, carried', [], by rw [List.append_assoc, List.append_nil], enters log book, anew⟩

/-- The list of any course has the form of the place where the course ends. -/
lemma Course.record {ds : List (Deed Connect)} {c : Connect} (run : Course cfg (start cfg) ds c) :
    Record cfg (keyHistory ds) c := by
  induction run with
  | refl => exact ⟨[], none, [], rfl, .nothing, .checking⟩
  | tail _ valid ih =>
    have more := (Valid.step valid).record ih
    simpa [keyHistory, keyEvents] using more

/-- What an attempt enters is balanced. -/
lemma Account.balanced {codes : List String} {es : List KeyEvent} {p : Attempt.Progress}
    (account : Attempt.Account cfg carried es p) : Balanced codes es := by
  cases account with
  | asking _ gets => exact gets.balanced
  | unkeyed _ gets => exact gets.balanced
  | @keyed es _ _ _ obtains sends =>
    have obtained : Balanced codes es := by
      cases obtains with
      | carried => exact ⟨rfl, rfl⟩
      | got gets => exact gets.balanced
    refine obtained.append (.cons ⟨rfl, rfl, rfl, rfl⟩ (.of_plain ?_))
    intro e mem
    obtain ⟨t, s, rfl⟩ := sends e mem
    exact ⟨rfl, rfl, rfl, rfl⟩

/-- A rejection and the request for a new key after it are balanced. -/
lemma balanced_of_rejection {cause : ClientError} {es : List KeyEvent} {p : Approval.Progress}
    {codes : List String} (rejection : (KeyEvent.fails cause).isRejection codes = true)
    (issues : Approval.Issues .reissue es p) : Balanced codes (.fails cause :: es) := by
  obtain ⟨one, again, unmissed, unrejected⟩ := issues.counts codes
  constructor
  · rw [List.countP_cons_of_neg Bool.false_ne_true, List.countP_cons_of_pos rejection, again,
      unrejected]
    rfl
  · rw [List.countP_cons_of_neg Bool.false_ne_true, List.countP_cons_of_pos rejection,
      List.countP_cons_of_neg Bool.false_ne_true, one, unrejected, unmissed]

/-- What the attempts enter that have failed is balanced. -/
lemma Book.balanced {log : List KeyEvent} (book : Book cfg log carried) :
    Balanced cfg.reissueCodes log := by
  have begins : KeyEvent.begins.Plain cfg.reissueCodes := ⟨rfl, rfl, rfl, rfl⟩
  induction book with
  | nothing => exact ⟨rfl, rfl⟩
  | failed _ account other ih =>
    have fails : Balanced cfg.reissueCodes [.fails _] := .cons ⟨rfl, rfl, rfl, other⟩ ⟨rfl, rfl⟩
    exact ih.append (.cons begins ((Account.balanced account).append fails))
  | replaced _ account rejection issues ih =>
    have replaces := balanced_of_rejection rejection issues
    exact ih.append (.cons begins ((Account.balanced account).append replaces))

/-- What is entered after the last failed attempt is balanced. -/
lemma Underway.balanced {c : Connect} (under : Underway cfg carried rest c) :
    Balanced cfg.reissueCodes rest := by
  have begins : KeyEvent.begins.Plain cfg.reissueCodes := ⟨rfl, rfl, rfl, rfl⟩
  induction under with
  | checking | announcing | deciding | pausing | exhausted | crashed => exact ⟨rfl, rfl⟩
  | launching => exact .cons begins ⟨rfl, rfl⟩
  | reissuing account rejection issues =>
    have replaces := balanced_of_rejection rejection issues
    exact .cons begins ((Account.balanced account).append replaces)
  | halted _ ih => exact ih
  | attempting account | parking account | replacing account | confirming account
  | publishing account | withdrawing account | discarding account | established account =>
    exact .cons begins (Account.balanced account)

end

/-- What any call that connects enters in its list, wherever it stands, is what its failed attempts
enter (`Book`), followed by what is under way (`Underway`). So an attempt that follows a rejection
with a successful reissue uses the reissued key and does not ask for another one, and every other
attempt uses what a request for a key is answered with, or fails without opening a transport. A key
is reissued as often as attempts fail for a rejection whose code calls for it, and the issuer is
called once more for each time the cache had no key. -/
theorem keys_issued_as_needed {cfg : Config} {ds : List (Deed Connect)} {c : Connect}
    (run : Course cfg (start cfg) ds c) :
    (∃ log carried rest, keyHistory ds = log ++ rest ∧ Book cfg log carried ∧
        Underway cfg carried rest c) ∧
      (keyHistory ds).countP KeyEvent.isReissue =
        (keyHistory ds).countP (KeyEvent.isRejection cfg.reissueCodes) ∧
      (keyHistory ds).countP KeyEvent.isIssue =
        (keyHistory ds).countP (KeyEvent.isRejection cfg.reissueCodes) +
          (keyHistory ds).countP KeyEvent.isMiss := by
  obtain ⟨log, carried, rest, parts, book, under⟩ := Course.record run
  have balanced : Balanced cfg.reissueCodes (keyHistory ds) := by
    rw [parts]
    exact book.balanced.append under.balanced
  exact ⟨⟨log, carried, rest, parts, book, under⟩, balanced.reissues, balanced.issues⟩

/-- The sample call, whose first attempt is rejected and whose third one reads the cache again: one
key is issued, for the rejection. -/
theorem sampleAfter_issues :
    Course sampleConfig (start sampleConfig)
        (sampleBefore.1 ++ sampleRejection :: sampleAfter.1) sampleAfter.2 ∧
      (keyHistory (sampleBefore.1 ++ sampleRejection :: sampleAfter.1)).countP
        (KeyEvent.isRejection sampleConfig.reissueCodes) = 1 ∧
      (keyHistory (sampleBefore.1 ++ sampleRejection :: sampleAfter.1)).countP
        KeyEvent.isIssue = 1 := by
  have before : Course sampleConfig (start sampleConfig) sampleBefore.1 sampleBefore.2 :=
    .of_replay (fun _ _ _ _ => valid_of_deed?) _ _ _
  have after : Course sampleConfig sampleRejection.goes sampleAfter.1 sampleAfter.2 :=
    .of_replay (fun _ _ _ _ => valid_of_deed?) _ _ _
  have invalid : Ack.validate "H0STCNI9" sampleAck = .error ⟨"H0STCNI9", "1", "OPSP0011", ""⟩ := by
    cbv
  have rejection : Valid sampleConfig sampleRejection :=
    advance_iff.2 (.attempting (.rejected rfl invalid))
  have run : Course sampleConfig (start sampleConfig)
      (sampleBefore.1 ++ sampleRejection :: sampleAfter.1) sampleAfter.2 :=
    Client.Course.append before (Client.Course.cons rejection after)
  obtain ⟨-, -, issues⟩ := keys_issued_as_needed run
  have rejections : (keyHistory (sampleBefore.1 ++ sampleRejection :: sampleAfter.1)).countP
      (KeyEvent.isRejection sampleConfig.reissueCodes) = 1 := by rfl
  have misses : (keyHistory (sampleBefore.1 ++ sampleRejection :: sampleAfter.1)).countP
      KeyEvent.isMiss = 0 := by rfl
  rw [rejections, misses] at issues
  exact ⟨run, rejections, issues⟩

end Connect

end Client

end FillFeed
