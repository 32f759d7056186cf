import Mathlib
import FillFeed.Proofs.Connect.Issuance

/-!
# Histories of requests for keys

Callers ask for whichever key there is, or for a fresh one, as often as they like. A `Visit` is one
such request with all that is asked of the cache and of the issuer for it, and a history is a list
of visits, of which any may have been abandoned.

`history_orderly` says what every visit of every history keeps to, whatever the cache and the issuer
answer (`Orderly`), and that over a cache which gives back what was written last (`KeepsLast`) a key
that was written answers every request for whichever key there is until something else is written.
What a request enters has one of a few forms (`Gets`, `Issues`), from which the first part follows;
the second rests on keys being trimmed and not empty, so that the text of a key is read as the key
again.
-/

namespace FillFeed

namespace KeyEvent

/-- Whether the cache is read. -/
def isRead : KeyEvent → Bool
  | .calls .readCache => true
  | _ => false

/-- Whether an answer is heard. -/
def isReply : KeyEvent → Bool
  | .hears _ => true
  | _ => false

/-- The key that the cache is given to keep, and for how long. -/
def written? : KeyEvent → Option (ApprovalKey × Duration)
  | .calls (.writeCache key lifetime) => some (key, lifetime)
  | _ => none

/-- What the cache answers when it is asked for what it holds. -/
def read? : KeyEvent → Option (Except CacheError (Option String))
  | .hears (.cacheRead result) => some result
  | _ => none

/-- What the issuer answers. -/
def issued? : KeyEvent → Option (Except IssuanceError ApprovalKey)
  | .hears (.keyIssued result) => some result
  | _ => none

end KeyEvent

/-- Trimming leaves nothing of a text if it has only blanks. -/
lemma Text.trim_eq_empty_iff {s : String} : trim s = "" ↔ ∀ c ∈ s.toList, isBlank c = true := by
  have chars : trim s = "" ↔ trimChars s.toList = [] := by
    rw [← String.toList_inj, toList_trim]
    rfl
  rw [chars, trimChars, List.reverse_eq_nil_iff, dropBlanks, List.dropWhile_eq_nil_iff]
  constructor
  · intro blank
    -- the first character that is left is not blank, so that there is none
    rw [← List.dropWhile_eq_nil_iff]
    cases left : s.toList.dropWhile isBlank with
    | nil => rfl
    | cons c cs =>
      have solid := head_dropBlanks s.toList c (by simp [dropBlanks, left])
      have none := blank c (by simp [dropBlanks, left])
      cases solid.symm.trans none
  · intro blank
    have none : dropBlanks s.toList = [] := List.dropWhile_eq_nil_iff.2 blank
    simp [none]

/-- A call and an answer to it. -/
inductive Reply.Answers : Call → Reply → Prop where
  | read {result} : Answers .readCache (.cacheRead result)
  | issued {result} : Answers .issueKey (.keyIssued result)
  | written {key lifetime result} : Answers (.writeCache key lifetime) (.cacheWritten result)

namespace Approval

/-- Which key a caller asks for: whichever there is, or a fresh one. -/
inductive Demand where
  | any
  | fresh
  deriving DecidableEq

/-- Where a request begins. -/
def Demand.stage : Demand → Stage
  | .any => get
  | .fresh => reissue

/-- The reason for which a request has a key issued. -/
def Demand.reason : Demand → IssueReason
  | .any => .cacheMiss
  | .fresh => .reissue

/-- What a request enters up to where it stands, one answer after the other. -/
inductive Runs (d : Demand) : List KeyEvent → Progress → Prop where
  | begun : Runs d ((Effect.began d.stage.call).keyEvent? d.reason).toList (.waits d.stage)
  | answered {es stage r p effects} (run : Runs d es (.waits stage))
      (goes : advance stage r = some (p, effects)) :
      Runs d (es ++ (r.keyEvent?.toList ++ effects.filterMap (Effect.keyEvent? d.reason))) p

/-- A request, what was asked and answered for it, and where it stands or ended. -/
structure Visit where
  demand : Demand
  events : List KeyEvent
  progress : Progress
  runs : Runs demand events progress

/-- What was asked and answered in a history of requests, one after the other. -/
def entries (vs : List Visit) : List KeyEvent := vs.flatMap (·.events)

/-- A read of the cache that fails, or yields nothing, or only blanks. -/
inductive Misses : Except CacheError (Option String) → Prop where
  | failed {e} : Misses (.error e)
  | nothing : Misses (.ok none)
  | blanks {raw : String} (blank : ∀ c ∈ raw.toList, Text.isBlank c = true) :
    Misses (.ok (some raw))

/-- The key in what the cache yields, if anything, and otherwise what the issuer answers. -/
def settle (read : Option (Except CacheError (Option String)))
    (issued : Option (Except IssuanceError ApprovalKey)) :
    Option (Except IssuanceError ApprovalKey) :=
  match read with
  | some (.ok (some raw)) =>
    match ApprovalKey.parse? raw with
    | some key => some (.ok key)
    | none => issued
  | _ => issued

/-- What every request keeps to. -/
structure Orderly (v : Visit) : Prop where
  /-- Whoever asks for any key has the cache read once, and whoever asks for a fresh one never. -/
  reads : v.events.countP KeyEvent.isRead = match v.demand with | .any => 1 | .fresh => 0
  /-- A key is issued on demand, and else when the cache has been read in vain. -/
  issues : v.events.countP KeyEvent.isIssue = 1 ↔
    v.demand = .fresh ∨ ∃ result, .hears (.cacheRead result) ∈ v.events ∧ Misses result
  /-- No request has more than one key issued. -/
  issues_le : v.events.countP KeyEvent.isIssue ≤ 1
  /-- The keys that were issued are written for 82800 seconds, once each, and nothing else is. -/
  writes : v.events.filterMap KeyEvent.written? =
    ((v.events.filterMap KeyEvent.issued?).filterMap Except.toOption).map (·, .ofSecs 82800)
  /-- A key is written as soon as it has been issued. -/
  writes_next : ∀ key, .hears (.keyIssued (.ok key)) ∈ v.events →
    [.hears (.keyIssued (.ok key)), .calls (.writeCache key (.ofSecs 82800))] <:+: v.events
  /-- What was read and what the issuer answered settle the result. -/
  result_eq : ∀ result, v.progress = .done result →
    some result = settle (v.events.findSome? KeyEvent.read?) (v.events.findSome? KeyEvent.issued?)
  /-- A request that waits goes on with whichever answer comes. -/
  responds : ∀ stage r, v.progress = .waits stage → r.Answers stage.call →
    ∃ p effects, advance stage r = some (p, effects)
  /-- No request waits for more answers than there are calls in its way. -/
  replies_le : v.events.countP KeyEvent.isReply ≤ match v.demand with | .any => 3 | .fresh => 2

/-- The last key that the cache was given is the given one, and it was kept. -/
def LastWritten (key : ApprovalKey) (es : List KeyEvent) : Prop :=
  ∃ before lifetime after,
    es = before ++ .calls (.writeCache key lifetime) :: .hears (.cacheWritten (.ok ())) :: after ∧
      ∀ e ∈ after, e.written? = none

/-- Whenever the cache yields something after a key was written, it is the text of the key that was
written last. -/
def KeepsLast (es : List KeyEvent) : Prop :=
  ∀ before result after key, es = before ++ .hears (.cacheRead (.ok result)) :: after →
    LastWritten key before → result = some key.text

section

variable {reason : IssueReason} {es : List KeyEvent} {p : Progress} {stage : Stage} {r : Reply}
  {result : Except CacheError (Option String)} {key : ApprovalKey}

/-- A request that waits goes on with any answer to what it asked. -/
lemma exists_advance_of_answers (answers : r.Answers stage.call) :
    ∃ p effects, advance stage r = some (p, effects) := by
  generalize asked : stage.call = call at answers
  cases stage with
  | reading =>
    cases asked
    cases answers with
    | @read result =>
      rcases result with e | _ | raw
      · exact ⟨_, _, rfl⟩
      · exact ⟨_, _, rfl⟩
      · cases text : ApprovalKey.parse? raw with
        | none => exact ⟨_, _, advance_iff.2 (.blank text)⟩
        | some key => exact ⟨_, _, advance_iff.2 (.hit text)⟩
  | issuing =>
    cases asked
    cases answers with
    | @issued result => cases result <;> exact ⟨_, _, rfl⟩
  | caching =>
    cases asked
    cases answers with
    | @written _ _ result => rcases result with e | ⟨⟩ <;> exact ⟨_, _, rfl⟩

/-- A run for a fresh key enters what a request for a new key enters. -/
lemma Runs.issues (run : Runs .fresh es p) : Issues .reissue es p := by
  induction run with
  | begun => exact .issuing
  | answered _ goes ih => exact (advance_iff.1 goes).issues ih

/-- A run for any key enters what a request enters that prefers the cached key. -/
lemma Runs.gets (run : Runs .any es p) : Gets es p := by
  induction run with
  | begun => exact .reading
  | answered _ goes ih => exact (advance_iff.1 goes).gets ih

/-- The reads that miss are those after which a key is issued. -/
lemma misses_iff : Misses result ↔ (KeyEvent.hears (.cacheRead result)).isMiss = true := by
  constructor
  · intro misses
    cases misses with
    | failed | nothing => rfl
    | blanks blank => exact decide_eq_true (Text.trim_eq_empty_iff.2 blank)
  · intro miss
    rcases result with e | _ | raw
    · exact .failed
    · exact .nothing
    · exact .blanks (Text.trim_eq_empty_iff.1 (of_decide_eq_true miss))

/-- After a read that misses, the answer of the issuer settles the result. -/
lemma Misses.settle (misses : Misses result) (issued : Option (Except IssuanceError ApprovalKey)) :
    settle (some result) issued = issued := by
  cases misses with
  | failed | nothing => rfl
  | blanks blank =>
    have none := ApprovalKey.parse?_eq_none.2 (Text.trim_eq_empty_iff.2 blank)
    simp [Approval.settle, none]

/-- A read that yields the text of a key does not miss. -/
lemma not_misses_of_text {raw : String} (text : ApprovalKey.parse? raw = some key) :
    ¬Misses (.ok (some raw)) := by
  intro misses
  cases misses with
  | blanks blank =>
    have none := ApprovalKey.parse?_eq_none.2 (Text.trim_eq_empty_iff.2 blank)
    cases none.symm.trans text

/-- A read that yields the text of a key settles the result, whatever the issuer answers. -/
lemma settle_of_text {raw : String} (text : ApprovalKey.parse? raw = some key)
    (issued : Option (Except IssuanceError ApprovalKey)) :
    settle (some (.ok (some raw))) issued = some (.ok key) := by
  simp [settle, text]

/-- A request for a new key does not read the cache. -/
lemma Issues.reads (issues : Issues reason es p) : es.countP KeyEvent.isRead = 0 := by
  cases issues <;> rfl

/-- A request for a new key hears nothing of what the cache holds. -/
lemma Issues.no_read (issues : Issues reason es p) :
    .hears (.cacheRead result) ∉ es := by
  cases issues <;> simp

/-- A request for a new key writes each key that is issued to the cache, and nothing else. -/
lemma Issues.writes (issues : Issues reason es p) :
    es.filterMap KeyEvent.written? =
      ((es.filterMap KeyEvent.issued?).filterMap Except.toOption).map (·, .ofSecs 82800) := by
  cases issues <;> rfl

/-- A request for a new key writes a key as soon as it has been issued. -/
lemma Issues.writes_next (issues : Issues reason es p)
    (heard : .hears (.keyIssued (.ok key)) ∈ es) :
    [.hears (.keyIssued (.ok key)), .calls (.writeCache key (.ofSecs 82800))] <:+: es := by
  cases issues with
  | issuing | refused => simp at heard
  | @caching key' =>
    have same : key = key' := by simpa using heard
    subst same
    exact ⟨[.issues reason], [], rfl⟩
  | @issued key' result =>
    have same : key = key' := by simpa using heard
    subst same
    exact ⟨[.issues reason], [.hears (.cacheWritten result)], rfl⟩

/-- A request for a new key ends with what the issuer answered. -/
lemma Issues.settled {result : Except IssuanceError ApprovalKey}
    (issues : Issues reason es (.done result)) :
    es.findSome? KeyEvent.read? = none ∧ es.findSome? KeyEvent.issued? = some result := by
  cases issues <;> exact ⟨rfl, rfl⟩

/-- A request for a new key hears two answers at most. -/
lemma Issues.replies_le (issues : Issues reason es p) : es.countP KeyEvent.isReply ≤ 2 := by
  cases issues with
  | issuing => exact Nat.zero_le 2
  | refused | caching => exact Nat.le_succ 1
  | issued => exact le_refl 2

/-- A visit for a fresh key is orderly. -/
lemma Issues.orderly (run : Runs .fresh es p) (issues : Issues .reissue es p) :
    Orderly ⟨.fresh, es, p, run⟩ := by
  obtain ⟨one, -⟩ := issues.counts []
  constructor
  case reads => exact issues.reads
  case issues => exact ⟨fun _ => .inl rfl, fun _ => one⟩
  case issues_le => exact one.le
  case writes => exact issues.writes
  case writes_next => exact fun key => issues.writes_next
  case result_eq =>
    intro result ended
    cases ended
    obtain ⟨unread, issued⟩ := issues.settled
    simp [unread, issued, Approval.settle]
  case responds => exact fun stage r _ => exists_advance_of_answers
  case replies_le => exact issues.replies_le

/-- A request that prefers the cached key reads the cache once. -/
lemma Gets.reads (gets : Gets es p) : es.countP KeyEvent.isRead = 1 := by
  cases gets with
  | reading | cached => rfl
  | missed miss issues =>
    rw [List.countP_cons_of_pos rfl, List.countP_cons_of_neg Bool.false_ne_true, issues.reads]

/-- A key is issued once if the read misses, and else never. -/
lemma Gets.issues_cases (gets : Gets es p) :
    (es.countP KeyEvent.isIssue = 0 ∧ ∀ result, .hears (.cacheRead result) ∈ es → ¬Misses result) ∨
      (es.countP KeyEvent.isIssue = 1 ∧ ∃ result, .hears (.cacheRead result) ∈ es ∧
        Misses result) := by
  cases gets with
  | reading => exact .inl ⟨rfl, by simp⟩
  | @cached raw key text =>
    refine .inl ⟨rfl, ?_⟩
    intro result heard
    have read : result = .ok (some raw) := by simpa using heard
    subst read
    exact not_misses_of_text text
  | @missed result _ _ miss issues =>
    refine .inr ⟨?_, result, by simp, misses_iff.2 miss⟩
    rw [List.countP_cons_of_neg Bool.false_ne_true, List.countP_cons_of_neg Bool.false_ne_true,
      (issues.counts []).1]

/-- A request that prefers the cached key writes a key as soon as it has been issued. -/
lemma Gets.writes_next (gets : Gets es p) (heard : .hears (.keyIssued (.ok key)) ∈ es) :
    [.hears (.keyIssued (.ok key)), .calls (.writeCache key (.ofSecs 82800))] <:+: es := by
  cases gets with
  | reading | cached => simp at heard
  | @missed result _ _ miss issues =>
    simp only [List.mem_cons, reduceCtorEq, KeyEvent.hears.injEq, false_or] at heard
    exact (issues.writes_next heard).trans
      ⟨[.calls .readCache, .hears (.cacheRead result)], [], by simp⟩

/-- A request that prefers the cached key ends with what the read and the issuer settle. -/
lemma Gets.settled {result : Except IssuanceError ApprovalKey} (gets : Gets es (.done result)) :
    settle (es.findSome? KeyEvent.read?) (es.findSome? KeyEvent.issued?) = some result := by
  cases gets with
  | cached text => exact settle_of_text text none
  | missed miss issues =>
    have settled := (misses_iff.2 miss).settle (some result)
    rw [← issues.settled.2] at settled
    exact settled.trans issues.settled.2

/-- A request that prefers the cached key hears three answers at most. -/
lemma Gets.replies_le (gets : Gets es p) : es.countP KeyEvent.isReply ≤ 3 := by
  cases gets with
  | reading => exact Nat.zero_le 3
  | cached => exact Nat.le_of_ble_eq_true rfl
  | missed miss issues =>
    rw [List.countP_cons_of_neg Bool.false_ne_true, List.countP_cons_of_pos rfl]
    exact Nat.succ_le_succ issues.replies_le

/-- A visit for any key is orderly. -/
lemma Gets.orderly (run : Runs .any es p) (gets : Gets es p) : Orderly ⟨.any, es, p, run⟩ := by
  constructor
  case reads => exact gets.reads
  case issues =>
    rcases gets.issues_cases with ⟨none, hit⟩ | ⟨one, result, heard, misses⟩
    · refine iff_of_false (by simp [none]) ?_
      rintro (fresh | ⟨result, heard, misses⟩)
      · cases fresh
      · exact hit result heard misses
    · exact iff_of_true one (.inr ⟨result, heard, misses⟩)
  case issues_le =>
    rcases gets.issues_cases with ⟨none, -⟩ | ⟨one, -⟩
    · exact none.le.trans (Nat.zero_le 1)
    · exact one.le
  case writes =>
    cases gets with
    | reading | cached => rfl
    | missed miss issues => exact issues.writes
  case writes_next => exact fun key => gets.writes_next
  case result_eq =>
    intro result ended
    cases ended
    exact gets.settled.symm
  case responds => exact fun stage r _ => exists_advance_of_answers
  case replies_le => exact gets.replies_le

/-- Every visit is orderly. -/
lemma Visit.orderly (v : Visit) : Orderly v := by
  obtain ⟨demand, es, p, run⟩ := v
  cases demand with
  | any => exact run.gets.orderly run
  | fresh => exact run.issues.orderly run

/-- A key stays the one that was written last while nothing is written. -/
lemma LastWritten.append {more : List KeyEvent} (last : LastWritten key es)
    (quiet : ∀ e ∈ more, e.written? = none) : LastWritten key (es ++ more) := by
  obtain ⟨before, lifetime, after, rfl, unwritten⟩ := last
  refine ⟨before, lifetime, after ++ more, by simp, ?_⟩
  intro e mem
  obtain earlier | later := List.mem_append.1 mem
  · exact unwritten e earlier
  · exact quiet e later

/-- A key that was written last and is read is the answer, and none is issued. -/
lemma Gets.of_kept {before after : List KeyEvent} {result : Option String} (gets : Gets es p)
    (keeps : KeepsLast (before ++ (es ++ after))) (last : LastWritten key before)
    (heard : .hears (.cacheRead (.ok result)) ∈ es) :
    p = .done (.ok key) ∧ es.countP KeyEvent.isIssue = 0 := by
  -- asking for what is kept does not change it
  have asked : LastWritten key (before ++ [.calls .readCache]) :=
    last.append (by simp [KeyEvent.written?])
  cases gets with
  | reading => simp at heard
  | @cached raw key' text =>
    have kept : some raw = some key.text := keeps _ _ after key (by simp) asked
    cases kept
    cases text.symm.trans key.parse?_text
    exact ⟨rfl, rfl⟩
  | @missed answer more _ miss issues =>
    have answered : .ok result = answer := by
      simpa only [List.mem_cons, reduceCtorEq, KeyEvent.hears.injEq, Reply.cacheRead.injEq,
        false_or, issues.no_read, or_false] using heard
    subst answered
    have kept : result = some key.text := keeps _ _ (more ++ after) key (by simp) asked
    subst kept
    exact absurd (misses_iff.2 miss) (not_misses_of_text key.parse?_text)

end

/-- Whatever the cache and the issuer answer, every request of a history is orderly. Over a cache
that gives back what was written last, a key that was written answers every request for whichever
key there is, as long as the cache answers and nothing else is written, and none is issued. -/
theorem history_orderly (vs : List Visit) :
    (∀ v ∈ vs, Orderly v) ∧
      (KeepsLast (entries vs) → ∀ earlier v later key result, vs = earlier ++ v :: later →
        LastWritten key (entries earlier) → v.demand = .any →
        .hears (.cacheRead (.ok result)) ∈ v.events →
        v.progress = .done (.ok key) ∧ v.events.countP KeyEvent.isIssue = 0) := by
  refine ⟨fun v _ => v.orderly, ?_⟩
  rintro keeps earlier ⟨demand, es, p, run⟩ later key result rfl last rfl heard
  have split : entries (earlier ++ ⟨.any, es, p, run⟩ :: later) =
      entries earlier ++ (es ++ entries later) := by
    simp [entries]
  rw [split] at keeps
  exact run.gets.of_kept keeps last heard

/-- A key. -/
def sampleKey : ApprovalKey := ⟨"key", by decide +kernel, by decide⟩

/-- A request that cannot read the cache and has a key issued and written. -/
def sampleIssued : Visit where
  demand := .any
  events := _
  progress := _
  runs := .answered (r := .cacheWritten (.ok ())) (.answered (r := .keyIssued (.ok sampleKey))
    (.answered (r := .cacheRead (.error .released)) .begun rfl) rfl) rfl

/-- A request for a fresh key, which is refused. -/
def sampleRefused : Visit where
  demand := .fresh
  events := _
  progress := _
  runs := .answered (r := .keyIssued (.error .missingField)) .begun rfl

/-- A request that reads the key from the cache. -/
def sampleCached : Visit where
  demand := .any
  events := _
  progress := _
  runs := .answered (r := .cacheRead (.ok (some sampleKey.text))) .begun rfl

/-- The last request of the sample gets the key that the first one wrote. -/
theorem sampleCached_kept :
    (∀ v ∈ [sampleIssued, sampleRefused, sampleCached], Orderly v) ∧
      sampleRefused.progress = .done (.error .missingField) ∧
      LastWritten sampleKey (entries [sampleIssued, sampleRefused]) ∧
      KeepsLast (entries [sampleIssued, sampleRefused, sampleCached]) ∧
      sampleCached.progress = .done (.ok sampleKey) ∧
      sampleCached.events.countP KeyEvent.isIssue = 0 := by
  have last : LastWritten sampleKey (entries [sampleIssued, sampleRefused]) := by
    refine ⟨[.calls .readCache, .hears (.cacheRead (.error .released)), .issues .cacheMiss,
      .hears (.keyIssued (.ok sampleKey))], ApprovalKey.cacheLifetime,
      [.issues .reissue, .hears (.keyIssued (.error .missingField))], rfl, ?_⟩
    simp [KeyEvent.written?]
  have keeps : KeepsLast (entries [sampleIssued, sampleRefused, sampleCached]) := by
    rintro before result after key split ⟨first, lifetime, rest, rfl, -⟩
    have read : .hears (.cacheRead (.ok result)) ∈
        entries [sampleIssued, sampleRefused, sampleCached] := by simp [split]
    have written : .calls (.writeCache key lifetime) ∈
        entries [sampleIssued, sampleRefused, sampleCached] := by simp [split]
    -- one text is read in the sample, and one key is written
    have text : result = some sampleKey.text := by
      simpa [entries, sampleIssued, sampleRefused, sampleCached, Effect.keyEvent?, Reply.keyEvent?,
        Demand.stage, get, reissue, Stage.call] using read
    have same : sampleKey = key ∧ ApprovalKey.cacheLifetime = lifetime := by
      simpa [entries, sampleIssued, sampleRefused, sampleCached, Effect.keyEvent?, Reply.keyEvent?,
        Demand.stage, get, reissue, Stage.call] using written
    rw [text, same.1]
  obtain ⟨orderly, kept⟩ := history_orderly [sampleIssued, sampleRefused, sampleCached]
  obtain ⟨hit, unissued⟩ := kept keeps [sampleIssued, sampleRefused] sampleCached [] sampleKey
    (some sampleKey.text) rfl last rfl (.tail _ (.head _))
  exact ⟨orderly, rfl, last, keeps, hit, unissued⟩

end Approval

end FillFeed
