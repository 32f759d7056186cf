import Mathlib
import FillFeed.Proofs.Handshake.Verdict
import FillFeed.Proofs.Settings.Acceptance
import FillFeed.Proofs.Connect.Reuse

/-!
# Listed codes

The variables may list the message codes that call for a new approval key. The settings hold the
listed codes in upper case, whereas the message code of an ack is compared as it is, without the
blanks around it. So an ack whose code is spelled like an entry of the list has one of these codes
only if the entry is in upper case (`Rejection.hasCode_of_listed`), and what the call does about a
rejected key depends on the spelling of the list (`listed_code_reissues_iff`).
-/

namespace FillFeed

open Text

section

variable {lookup : Lookup} {settings : Settings} {list entry : String} {r : Rejection}

/-- A list with an entry that is not blank is not blank. -/
lemma Settings.filled_of_listed (listed : entry ∈ split ',' list) (filled : trim entry ≠ "") :
    trim list ≠ "" := by
  intro blank
  have mem : uppercase (trim entry) ∈ codeList list :=
    mem_codeList_iff.2 ⟨entry, listed, filled, rfl⟩
  rw [← codeList_trim, blank] at mem
  have none : codeList "" = [] := by decide
  rw [none] at mem
  cases mem

/-- Accepted settings hold the codes of the list that is given. -/
lemma Settings.reissueCodes_of_given (accepted : ofLookup lookup = .ok settings)
    (given : lookup "KIS_REISSUE_MESSAGE_CODES" = some list) (filled : trim list ≠ "") :
    settings.reissueCodes = codeList list := by
  obtain ⟨appKey, appSecret, subscriberKey, -, -, -, -, -, rfl⟩ := ofLookup_eq_ok_iff.1 accepted
  have read : lookup.optional "KIS_REISSUE_MESSAGE_CODES" = some (trim list) := by
    rw [Lookup.optional_eq, given, Option.map_some]
    exact if_pos (bne_iff_ne.2 filled)
  rw [configured, read, Option.elim_some, codeList_trim]

namespace Rejection

/-- A rejection has one of the codes of a list exactly when its code, trimmed, is the upper-case
form of an entry. -/
lemma hasCode_codeList_iff : r.hasCode (Settings.codeList list) = true ↔
    ∃ entry ∈ split ',' list, trim entry ≠ "" ∧ trim r.code = uppercase (trim entry) := by
  rw [hasCode_iff, Settings.mem_codeList_iff]
  refine and_iff_right_of_imp ?_
  rintro ⟨entry, -, filled, coded⟩
  rw [coded]
  exact uppercase_eq_empty_iff.not.2 filled

/-- A code that is spelled like an entry of the list is one of the codes only if the entry is in
upper case, whatever else the list holds. -/
lemma hasCode_of_listed (listed : entry ∈ split ',' list) (filled : trim entry ≠ "")
    (coded : trim r.code = trim entry) :
    r.hasCode (Settings.codeList list) = true ↔ uppercase (trim entry) = trim entry := by
  rw [hasCode_codeList_iff, coded]
  constructor
  · rintro ⟨other, -, -, same⟩
    rw [same, uppercase_idem]
  · intro upper
    exact ⟨entry, listed, filled, upper.symm⟩

end Rejection

end

namespace Client.Connect

/-- A deed in which an attempt has its request answered by an ack that is rejected. -/
def Refused (retry : Retry) (a : Ack) (d : Deed Connect) : Prop :=
  ∃ h frame raw now r, d.stood = .attempting retry (.acking h) ∧
    d.met = .reply (.received (.ok (some frame))) now ∧ Attempt.answer? frame = some raw ∧
    Ack.read? raw = some a ∧ a.check h.current.streamId = .error r

/-- What a call goes to and does about a rejection, depending on whether it has one of the codes of
the configuration: it begins to replace the approval key, or it decides at once whether to make
another attempt and has no key issued. -/
def Responds (cfg : Config) (retry : Retry) (r : Rejection) (goes : Connect)
    (did : List Effect) : Prop :=
  if r.hasCode cfg.reissueCodes = true then
    goes = .reissuing retry Approval.reissue ∧ .began .issueKey ∈ did
  else goes = .deciding retry none ∧ .began .issueKey ∉ did

section

variable {cfg : Config} {shared : Shared} {retry : Retry} {a : Ack} {r : Rejection}
  {t : TransportId} {d : Deed Connect}

/-- An attempt whose ack is rejected closes its transport, and keeps the message code. -/
lemma Valid.goes_of_refused (valid : Valid cfg d) (refused : Refused retry a d) :
    ∃ t r, d.goes = .attempting retry (.abandoning t (.rejected r)) ∧ r.code = a.code := by
  obtain ⟨h, frame, raw, now, r, stood, met, text, read, rejected⟩ := refused
  have invalid : Ack.validate h.current.streamId raw = .error r := by
    rw [Ack.validate_of_read? read, rejected]
  have goes : some (⟨d.left, d.goes, d.did⟩ : Outcome) =
      some ⟨d.found, .attempting retry (.abandoning h.transport (.rejected r)),
        [.took h.transport frame, .began (.close h.transport)]⟩ := by
    rw [← valid, stood, met]
    exact advance_iff.2 (.attempting (.rejected text invalid))
  obtain ⟨_, -, rfl⟩ := Ack.check_eq_error_iff.1 rejected
  cases d
  cases goes
  exact ⟨_, _, rfl, rfl⟩

/-- A failure for a rejected ack has a new key issued if the message code of the ack calls for one,
and otherwise leads at once to the decision whether to make another attempt. -/
lemma failed_of_rejected {effects : List Effect} (unissued : .began .issueKey ∉ effects) :
    Responds cfg retry r (failed cfg shared retry (.rejected r) effects).next
      (failed cfg shared retry (.rejected r) effects).effects := by
  obtain ⟨cause, calls, e⟩ | ⟨calls, e⟩ := failed_cases cfg shared retry (.rejected r) effects
  · have coded : r.hasCode cfg.reissueCodes = true := by
      by_contra uncoded
      rw [ClientError.reissueCause?, if_neg uncoded] at calls
      cases calls
    rw [Responds, if_pos coded, e]
    exact ⟨rfl, by simp⟩
  · have uncoded : ¬r.hasCode cfg.reissueCodes = true := by
      intro coded
      rw [ClientError.reissueCause?, if_pos coded] at calls
      cases calls
    rw [Responds, if_neg uncoded, e]
    exact ⟨rfl, by simp [unissued, began_notMem_setState]⟩

/-- Once the transport of a rejected attempt is closed, the attempt has failed. -/
lemma Step.of_rejected {h : Happening} {o : Outcome}
    (st : Step cfg shared (.attempting retry (.abandoning t (.rejected r))) h o)
    (unstopped : h ≠ .cancelled) : Responds cfg retry r o.next o.effects := by
  cases st with
  | dropped => exact absurd rfl unstopped
  | attempting st => cases st
  | succeeded st => cases st
  | failed st =>
    cases st with
    | abandoned => exact failed_of_rejected began_notMem_closeNotices
    | abandonedLate => exact failed_of_rejected (by simp)

end

/-- When accepted variables list a message code, a rejection has one of the codes of the client
exactly when its code, without the blanks around it, is the upper-case form of an entry of the list.
So a code that is spelled like an entry is recognised exactly when the entry is in upper case. If it
is, a call whose request is answered by an ack with this code has a new approval key issued as soon
as it has closed the transport, unless it is stopped before; and if it is not, the call has none
issued, and decides at once whether to make another attempt. -/
theorem listed_code_reissues_iff {lookup : Lookup} {settings : Settings} {list entry : String}
    (accepted : Settings.ofLookup lookup = .ok settings)
    (given : lookup "KIS_REISSUE_MESSAGE_CODES" = some list) (listed : entry ∈ split ',' list)
    (filled : trim entry ≠ "") :
    (∀ r : Rejection, r.hasCode (Config.ofSettings settings).reissueCodes = true ↔
      ∃ other ∈ split ',' list, trim other ≠ "" ∧ trim r.code = uppercase (trim other)) ∧
    (∀ r : Rejection, trim r.code = trim entry →
      (r.hasCode (Config.ofSettings settings).reissueCodes = true ↔
        uppercase (trim entry) = trim entry)) ∧
    ∀ {c₀ c : Connect} {before after : List (Deed Connect)} {d d' : Deed Connect} {retry : Retry}
      {a : Ack}, Course (Config.ofSettings settings) c₀ (before ++ d :: d' :: after) c →
      Refused retry a d → trim a.code = trim entry → d'.met ≠ .cancelled →
      (uppercase (trim entry) = trim entry →
        d'.goes = .reissuing retry Approval.reissue ∧ .began .issueKey ∈ d'.did) ∧
      (uppercase (trim entry) ≠ trim entry →
        d'.goes = .deciding retry none ∧ .began .issueKey ∉ d'.did) := by
  have codes : (Config.ofSettings settings).reissueCodes = Settings.codeList list :=
    Settings.reissueCodes_of_given accepted given (Settings.filled_of_listed listed filled)
  have recognised (r : Rejection) (coded : trim r.code = trim entry) :
      r.hasCode (Config.ofSettings settings).reissueCodes = true ↔
        uppercase (trim entry) = trim entry := by
    rw [codes]
    exact Rejection.hasCode_of_listed listed filled coded
  refine ⟨fun r => ?_, recognised, ?_⟩
  · rw [codes]
    exact Rejection.hasCode_codeList_iff
  · intro c₀ c before after d d' retry a run refused coded unstopped
    -- the deed that follows the refusal ends the attempt
    obtain ⟨m, -, onwards⟩ := Client.Course.split run
    obtain ⟨-, valid, rest⟩ := Client.Course.head onwards
    obtain ⟨next, valid', -⟩ := Client.Course.head rest
    obtain ⟨t, r, goes, kept⟩ := valid.goes_of_refused refused
    have st : Step (Config.ofSettings settings) d'.found
        (.attempting retry (.abandoning t (.rejected r))) d'.met ⟨d'.left, d'.goes, d'.did⟩ := by
      rw [← goes, ← next]
      exact valid'.step
    have has_iff := recognised r (kept ▸ coded)
    have responds := st.of_rejected unstopped
    constructor
    · intro upper
      rwa [Responds, if_pos (has_iff.2 upper)] at responds
    · intro lower
      rwa [Responds, if_neg fun has => lower (has_iff.1 has)] at responds

/-- Variables that list one code in lower case and one in upper case. -/
def mixedLookup : Lookup :=
  Lookup.ofEntries ["KIS_APP_KEY=app-key", "KIS_APP_SECRET=app-secret", "KIS_HTS_ID=hts-user",
    "KIS_REISSUE_MESSAGE_CODES= opsp0011 , ,EGW00123"]

/-- The settings that these variables configure. -/
def mixedSettings : Settings := .configured mixedLookup "app-key" "app-secret" "hts-user"

/-- The configuration that follows from them. -/
def mixedConfig : Config := .ofSettings mixedSettings

/-- An ack that rejects a request with the code that is listed in lower case. -/
def lowerText : String :=
  "\x7b\"header\":\x7b\"tr_id\":\"H0STCNI9\"\x7d," ++
    "\"body\":\x7b\"rt_cd\":\"1\",\"msg_cd\":\"opsp0011\"\x7d\x7d"

/-- A call up to its first request. -/
def mixedBefore : List (Deed Connect) × Connect :=
  replay (deed? mixedConfig) Shared.initial (start mixedConfig)
    [.proceed, .proceed, .proceed, .reply (.cacheRead (.ok (some "old"))) ⟨0⟩,
      .reply (.opened (.ok ())) ⟨1⟩, .reply (.sent (.ok ())) ⟨2⟩]

/-- What is shared while the call waits for the ack. -/
def subscribing : Shared := { Shared.initial with state := .subscribing, opened := 1 }

/-- The ack is rejected. -/
def lowerRefusal : Deed Connect where
  found := subscribing
  stood := mixedBefore.2
  met := .reply (.received (.ok (some (.text lowerText)))) ⟨3⟩
  left := subscribing
  goes := .attempting (Retry.start mixedConfig.retry)
    (.abandoning 1 (.rejected ⟨"H0STCNI9", "1", "opsp0011", ""⟩))
  did := [.took 1 (.text lowerText), .began (.close 1)]

/-- The transport is closed. -/
def lowerFailure : Deed Connect where
  found := subscribing
  stood := lowerRefusal.goes
  met := .reply (.closed (.ok ())) ⟨4⟩
  left := { subscribing with state := .disconnected }
  goes := .deciding (Retry.start mixedConfig.retry) none
  did := [.noted (.stateChanged .subscribing .disconnected), .published .disconnected,
    .counted (.connectFailures "subscription_ack"),
    .noted (.attemptFailed (.rejected ⟨"H0STCNI9", "1", "opsp0011", ""⟩) 1)]

/-- Of two codes that are listed, the one in upper case is recognised, and the one in lower case is
not: a call that meets it has no key issued. -/
theorem mixedLookup_misses :
    Settings.ofLookup mixedLookup = .ok mixedSettings ∧
      (∀ r : Rejection, trim r.code = "EGW00123" → r.hasCode mixedConfig.reissueCodes = true) ∧
      (∀ r : Rejection, trim r.code = "opsp0011" → ¬r.hasCode mixedConfig.reissueCodes = true) ∧
      ∃ c, Course mixedConfig (start mixedConfig)
        (mixedBefore.1 ++ [lowerRefusal, lowerFailure]) c ∧
        .began .issueKey ∉ lowerFailure.did := by
  have accepted : Settings.ofLookup mixedLookup = .ok mixedSettings := by
    rfl
  have given : mixedLookup "KIS_REISSUE_MESSAGE_CODES" = some " opsp0011 , ,EGW00123" := by
    rfl
  have lower : " opsp0011 " ∈ split ',' " opsp0011 , ,EGW00123" := by
    decide
  have upper : "EGW00123" ∈ split ',' " opsp0011 , ,EGW00123" := by
    decide
  have read : Ack.read? lowerText = some ⟨"H0STCNI9", none, none, "1", "opsp0011", "", none⟩ := by
    cbv
  have rejected : Ack.check "H0STCNI9" ⟨"H0STCNI9", none, none, "1", "opsp0011", "", none⟩ =
      .error ⟨"H0STCNI9", "1", "opsp0011", ""⟩ := by
    rfl
  have invalid : Ack.validate "H0STCNI9" lowerText = .error ⟨"H0STCNI9", "1", "opsp0011", ""⟩ := by
    rw [Ack.validate_of_read? read, rejected]
  have before : Course mixedConfig (start mixedConfig) mixedBefore.1 mixedBefore.2 :=
    .of_replay (fun _ _ _ _ => valid_of_deed?) _ _ _
  have refusal : Valid mixedConfig lowerRefusal :=
    advance_iff.2 (.attempting (.rejected rfl invalid))
  have failure : Valid mixedConfig lowerFailure := by
    unfold Valid
    rfl
  have run : Course mixedConfig (start mixedConfig)
      (mixedBefore.1 ++ [lowerRefusal, lowerFailure]) lowerFailure.goes :=
    Client.Course.append before (Client.Course.cons refusal (Client.Course.cons failure (.refl _)))
  have refused : Refused (Retry.start mixedConfig.retry) _ lowerRefusal :=
    ⟨_, _, _, _, _, rfl, rfl, rfl, read, rejected⟩
  have unstopped : lowerFailure.met ≠ .cancelled := by
    intro same
    cases same
  obtain ⟨-, recognises, -⟩ := listed_code_reissues_iff accepted given upper (by decide)
  obtain ⟨-, misses, calls⟩ := listed_code_reissues_iff accepted given lower (by decide)
  refine ⟨accepted, fun r coded => (recognises r coded).2 (by decide),
    fun r coded has => ?_, lowerFailure.goes, run, ?_⟩
  · exact absurd ((misses r coded).1 has) (by decide)
  · exact ((calls run refused (by decide) unstopped).2 (by decide)).2

end Client.Connect

end FillFeed
