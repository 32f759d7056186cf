import Mathlib
import FillFeed.Proofs.Settings.CodeList

/-!
# Accepted variables

What settings are made of is read from eighteen variables, each in one of a few forms, and nothing
else matters (`Lookup.Alike.ofLookup_eq`): neither blanks around a value nor, where a variable may
be absent, a value that is blank or of the wrong type. `ofLookup_eq_ok_iff` says which variables are
accepted and what the settings are then, and `settings_of_variables` puts the two together with what
holds of all accepted settings.
-/

namespace FillFeed

/-- What succeeds in two steps succeeds in each of them. -/
lemma exists_of_bind_eq_ok {ε α β : Type} {x : Except ε α} {f : α → Except ε β} {b : β}
    (bound : x >>= f = .ok b) : ∃ a, x = .ok a ∧ f a = .ok b := by
  cases x with
  | error => cases bound
  | ok a => exact ⟨a, rfl, bound⟩

namespace Binary64

/-- The number that is meant, unless it is infinite or none at all. -/
def value? : Binary64 → Option ℚ
  | .finite negative m e => some ((if negative then -1 else 1) * m * 2 ^ e)
  | _ => none

/-- A power of two is this power of the rational number. -/
lemma twoPow_cast (n : Nat) : (twoPow n : ℚ) = 2 ^ n := Nat.cast_pow 2 n

/-- The comparison of a significand with the power of two that one is in its units. -/
lemma unit_le_iff (m : Nat) (e : Int) :
    (if 0 ≤ e then m * twoPow e.toNat ≤ 1 else m ≤ twoPow (-e).toNat) ↔ (m : ℚ) * 2 ^ e ≤ 1 := by
  split
  · rename_i whole
    lift e to ℕ using whole
    rw [Int.toNat_natCast, zpow_natCast, ← twoPow_cast]
    norm_cast
  · rename_i fractional
    obtain ⟨n, rfl⟩ : ∃ n : ℕ, e = -n := ⟨(-e).toNat, by omega⟩
    rw [neg_neg, Int.toNat_natCast, zpow_neg, zpow_natCast, ← div_eq_mul_inv,
      div_le_one (by positivity), ← twoPow_cast, Nat.cast_le]

/-- A number is in the unit interval if and only if it is finite and between zero and one. -/
lemma inUnitInterval_iff {x : Binary64} :
    x.inUnitInterval = true ↔ ∃ v, x.value? = some v ∧ 0 ≤ v ∧ v ≤ 1 := by
  cases x with
  | nan => simp [inUnitInterval, value?]
  | infinite => simp [inUnitInterval, value?]
  | finite negative m e =>
    simp only [inUnitInterval, value?, Option.some.injEq, exists_eq_left']
    have unit : (0 : ℚ) < 2 ^ e := by positivity
    obtain rfl | positive := Nat.eq_zero_or_pos m
    · simp
    have size : 0 < (m : ℚ) * 2 ^ e := mul_pos (Nat.cast_pos.2 positive) unit
    cases negative with
    | true =>
      have below : ¬0 ≤ -1 * (m : ℚ) * 2 ^ e := by linarith
      rw [if_pos rfl]
      exact iff_of_false (by simp [positive.ne']) fun within => below within.1
    | false => simp [positive.ne', size.le, unit_le_iff]

end Binary64

namespace Lookup

open Text

/-- The form in which a variable is read. -/
inductive Form where
  | required
  | text
  | whole (bound : Nat)
  | fraction
  deriving DecidableEq

/-- Whether a text can be read in a form. -/
def Form.reads : Form → String → Bool
  | .required, _ | .text, _ => true
  | .whole bound, s => (unsigned? bound s).isSome
  | .fraction, s => (Binary64.read? s).isSome

/-- Two values of a variable, or its absence, that mean the same. -/
inductive Form.Same (form : Form) : Option String → Option String → Prop where
  | absent : Same form none none
  | spaced {v w : String} (trimmed : trim v = trim w) : Same form (some v) (some w)
  | blank {v : String} (optional : form ≠ .required) (blank : trim v = "") : Same form (some v) none
  | unread {v : String} (unread : form.reads (trim v) = false) : Same form (some v) none
  | symm {v w} (same : Same form v w) : Same form w v
  | trans {u v w} (first : Same form u v) (second : Same form v w) : Same form u w

/-- Whether a trimmed text counts as the value of a variable. -/
def Form.admits (form : Form) (s : String) : Bool :=
  form == .required || (s != "" && form.reads s)

/-- What a value of a variable is taken for. -/
def Form.meaning (form : Form) (v : Option String) : Option String :=
  (v.map trim).filter form.admits

end Lookup

/-- The variables that settings are read from, and their forms. -/
def Settings.knownVariables : List (String × Lookup.Form) :=
  [("KIS_APP_KEY", .required), ("KIS_APP_SECRET", .required), ("KIS_HTS_ID", .required),
    ("KIS_ENV", .text), ("KIS_WS_URL", .text), ("KIS_REST_URL", .text), ("REDIS_URL", .text),
    ("KIS_APPROVAL_KEY_CACHE_KEY", .text), ("KIS_REISSUE_MESSAGE_CODES", .text),
    ("KIS_PING_INTERVAL_SECS", .whole (2 ^ 64)), ("KIS_PING_TIMEOUT_SECS", .whole (2 ^ 64)),
    ("KIS_CLOSE_TIMEOUT_SECS", .whole (2 ^ 64)), ("KIS_CONNECT_TIMEOUT_SECS", .whole (2 ^ 64)),
    ("KIS_ACK_TIMEOUT_SECS", .whole (2 ^ 64)), ("KIS_RECONNECT_DELAY_MS", .whole (2 ^ 64)),
    ("KIS_MAX_RECONNECT_ATTEMPTS", .whole (2 ^ 32)), ("KIS_METRICS_PORT", .whole (2 ^ 16)),
    ("KIS_RECONNECT_JITTER", .fraction)]

/-- Two lookups in which each of these variables means the same. -/
def Lookup.Alike (lookup other : Lookup) : Prop :=
  ∀ v ∈ Settings.knownVariables, v.2.Same (lookup v.1) (other v.1)

/-- The address of the feed, that of the issuer, and the streams, as they belong together. -/
inductive Environment.Site : Environment → String → String → List String → Prop where
  | live : Site .live "ws://ops.koreainvestment.com:21000"
      "https://openapi.koreainvestment.com:9443" ["H0STCNI0", "H0GSCNI0"]
  | paper : Site .paper "ws://ops.koreainvestment.com:31000"
      "https://openapivts.koreainvestment.com:29443" ["H0STCNI9", "H0GSCNI9"]

namespace Lookup

open Text

variable {lookup other : Lookup} {name value : String} {form : Form} {v w : Option String}

/-- The value of an optional variable is what it is set to without the blanks around it, unless
nothing is left. -/
lemma optional_eq (lookup : Lookup) (name : String) :
    lookup.optional name = ((lookup name).map trim).filter (· != "") := by
  rw [optional]
  cases lookup name with
  | none => rfl
  | some raw =>
    rw [Option.map_some, Option.filter_some]
    by_cases blank : trim raw = "" <;> simp [blank]

/-- A required variable has a value if and only if it is set to more than blanks. -/
lemma required_eq_ok_iff :
    lookup.required name = .ok value ↔
      ∃ raw, lookup name = some raw ∧ trim raw ≠ "" ∧ value = trim raw := by
  rw [required]
  cases lookup name with
  | none => simp
  | some raw =>
    simp only [Option.some.injEq, exists_eq_left']
    split
    · rename_i blank
      exact iff_of_false nofun fun filled => filled.1 blank
    · rename_i filled
      rw [Except.ok.injEq, eq_comm, and_iff_right filled]

/-- A required variable is read in the same way whatever blanks are around its value. -/
lemma required_congr (same : (lookup name).map trim = (other name).map trim) :
    lookup.required name = other.required name := by
  rw [required, required]
  cases found : lookup name <;> cases found' : other name <;> simp_all

/-- Two values that mean the same are taken for the same. -/
lemma Form.Same.meaning_eq (same : form.Same v w) : form.meaning v = form.meaning w := by
  induction same with
  | absent => rfl
  | spaced trimmed => rw [meaning, meaning, Option.map_some, Option.map_some, trimmed]
  | blank optional blank => simp [meaning, admits, optional, blank]
  | unread unread =>
    have optional : form ≠ .required := by
      rintro rfl
      cases unread
    simp [meaning, admits, optional, unread]
  | symm _ ih => exact ih.symm
  | trans _ _ first second => exact first.trans second

/-- A value means the same as what it is taken for. -/
lemma Form.same_meaning (form : Form) (v : Option String) : form.Same v (form.meaning v) := by
  cases v with
  | none => exact .absent
  | some raw =>
    rw [meaning, Option.map_some, Option.filter_some]
    split
    · exact .spaced (trim_idem raw).symm
    · rename_i dropped
      simp only [admits, Bool.or_eq_true, beq_iff_eq, not_or] at dropped
      by_cases blank : trim raw = ""
      · exact .blank dropped.1 blank
      · exact .unread (by simpa [blank] using dropped.2)

/-- Two values mean the same if and only if they are taken for the same. -/
lemma Form.same_iff : form.Same v w ↔ form.meaning v = form.meaning w := by
  refine ⟨Same.meaning_eq, fun meant => ?_⟩
  have shared := form.same_meaning w
  rw [← meant] at shared
  exact (form.same_meaning v).trans shared.symm

instance (form : Form) (v w : Option String) : Decidable (form.Same v w) :=
  decidable_of_iff _ Form.same_iff.symm

instance (lookup other : Lookup) : Decidable (lookup.Alike other) :=
  inferInstanceAs (Decidable (∀ v ∈ Settings.knownVariables, v.2.Same (lookup v.1) (other v.1)))

/-- A required variable is taken for what it is set to without the blanks around it. -/
lemma Form.meaning_required (v : Option String) : required.meaning v = v.map trim := by
  cases v <;> rfl

/-- Whatever fails on the texts that an optional form excludes reads of a value what it is taken
for. -/
lemma Form.bind_meaning {β : Type} {read? : String → Option β} (optional : form ≠ .required)
    (reads : ∀ s, form.reads s = false → read? s = none) (v : Option String) :
    (form.meaning v).bind read? = ((v.map trim).filter (· != "")).bind read? := by
  have admits : form.admits = fun s => s != "" && form.reads s := by
    funext s
    rw [Form.admits, beq_false_of_ne optional, Bool.false_or]
  rw [meaning, admits, ← Option.filter_filter]
  cases (v.map trim).filter (· != "") with
  | none => rfl
  | some s =>
    rw [Option.filter_some, Option.bind_some]
    cases unread : form.reads s with
    | true => rfl
    | false => exact (reads s unread).symm

namespace Alike

variable (alike : lookup.Alike other)

include alike

/-- Two lookups that mean the same agree on a required variable. -/
lemma required_eq (mem : (name, .required) ∈ Settings.knownVariables) :
    lookup.required name = other.required name := by
  refine required_congr ?_
  rw [← Form.meaning_required, ← Form.meaning_required]
  exact (alike _ mem).meaning_eq

/-- An optional variable is read as the same, by whatever fails on what its form excludes. -/
lemma bind_eq {β : Type} {read? : String → Option β} (mem : (name, form) ∈ Settings.knownVariables)
    (optional : form ≠ .required) (reads : ∀ s, form.reads s = false → read? s = none) :
    (lookup.optional name).bind read? = (other.optional name).bind read? := by
  have same := (alike _ mem).meaning_eq
  rw [Lookup.optional_eq, Lookup.optional_eq, ← Form.bind_meaning optional reads,
    ← Form.bind_meaning optional reads, same]

/-- Two lookups that mean the same agree on a text. -/
lemma optional_eq (mem : (name, .text) ∈ Settings.knownVariables) :
    lookup.optional name = other.optional name := by
  have same : (lookup.optional name).bind some = (other.optional name).bind some :=
    alike.bind_eq mem nofun nofun
  rwa [Option.bind_fun_some, Option.bind_fun_some] at same

/-- Two lookups that mean the same agree on a whole number. -/
lemma whole_eq {bound : Nat} (mem : (name, .whole bound) ∈ Settings.knownVariables) :
    lookup.whole name bound = other.whole name bound :=
  alike.bind_eq mem nofun fun s unread => by simpa [Form.reads] using unread

/-- Two lookups that mean the same agree on a fraction. -/
lemma fraction_eq (mem : (name, .fraction) ∈ Settings.knownVariables) :
    (lookup.optional name).bind Binary64.read? = (other.optional name).bind Binary64.read? :=
  alike.bind_eq mem nofun fun s unread => by simpa [Form.reads] using unread

/-- Two lookups that mean the same configure the same connection. -/
lemma connectionOf_eq : Settings.connectionOf lookup = Settings.connectionOf other := by
  simp (disch := decide) only [Settings.connectionOf, seconds, alike.whole_eq, alike.fraction_eq]

/-- Settings depend on nothing but what the variables mean, and so do the errors. -/
lemma ofLookup_eq : Settings.ofLookup lookup = Settings.ofLookup other := by
  -- the timing comes first, since the checks of its ranges are decided on it
  rw [Settings.ofLookup, Settings.ofLookup, alike.connectionOf_eq]
  simp (disch := decide) only [alike.required_eq, alike.optional_eq, alike.whole_eq]

end Alike

end Lookup

namespace Settings

open Text

variable {lookup : Lookup} {settings : Settings}

/-- The settings that the variables configure for some credentials and some subscriber. -/
def configured (lookup : Lookup) (appKey appSecret subscriberKey : String) : Settings where
  environment := (lookup.optional "KIS_ENV").elim .paper Environment.ofText
  credentials := ⟨appKey, appSecret⟩
  subscriberKey := subscriberKey
  streamUrl := lookup.optional "KIS_WS_URL"
  restUrl := lookup.optional "KIS_REST_URL"
  connection := connectionOf lookup
  cacheUrl := (lookup.optional "REDIS_URL").getD defaultCacheUrl
  cacheKey := (lookup.optional "KIS_APPROVAL_KEY_CACHE_KEY").getD defaultCacheKey
  reissueCodes := (lookup.optional "KIS_REISSUE_MESSAGE_CODES").elim defaultReissueCodes codeList
  metricsPort := (lookup.whole "KIS_METRICS_PORT" (twoPow 16)).getD 0

/-- Settings are accepted exactly when they are what the variables configure, the three required
variables are there, and the number of attempts and the jitter are in their ranges. -/
theorem ofLookup_eq_ok_iff : ofLookup lookup = .ok settings ↔
    ∃ appKey appSecret subscriberKey, lookup.required "KIS_APP_KEY" = .ok appKey ∧
      lookup.required "KIS_APP_SECRET" = .ok appSecret ∧
      lookup.required "KIS_HTS_ID" = .ok subscriberKey ∧
      (connectionOf lookup).maxAttempts ≠ 0 ∧
      (connectionOf lookup).jitter.inUnitInterval = true ∧
      settings = configured lookup appKey appSecret subscriberKey := by
  constructor
  · intro accepted
    obtain ⟨appKey, given, accepted⟩ := exists_of_bind_eq_ok accepted
    obtain ⟨appSecret, given', accepted⟩ := exists_of_bind_eq_ok accepted
    obtain ⟨subscriberKey, given'', accepted⟩ := exists_of_bind_eq_ok accepted
    dsimp only at accepted
    split at accepted
    · cases accepted
    · rename_i some_attempts
      split at accepted
      · cases accepted
      · rename_i inRange
        cases accepted
        exact ⟨appKey, appSecret, subscriberKey, given, given', given'', some_attempts,
          Bool.not_eq_false _ ▸ inRange, rfl⟩
  · rintro ⟨appKey, appSecret, subscriberKey, given, given', given'', some_attempts, inRange, rfl⟩
    rw [ofLookup, given, given', given'']
    simp only [bind, Except.bind, if_neg some_attempts, inRange, Bool.true_eq_false, if_false]
    rfl

/-- The codes of accepted settings are trimmed, and none of them is empty. -/
lemma trim_of_mem_reissueCodes (accepted : ofLookup lookup = .ok settings) {code : String}
    (mem : code ∈ settings.reissueCodes) : code ≠ "" ∧ trim code = code := by
  obtain ⟨appKey, appSecret, subscriberKey, -, -, -, -, -, rfl⟩ := ofLookup_eq_ok_iff.1 accepted
  dsimp only [configured] at mem
  cases given : lookup.optional "KIS_REISSUE_MESSAGE_CODES" with
  | none =>
    rw [given, Option.elim_none] at mem
    revert code
    decide
  | some list =>
    rw [given, Option.elim_some] at mem
    exact (upper_of_mem_codeList mem).1

/-- Where no address is given, the addresses and the streams are those of the environment. -/
lemma site_of_unset (stream : settings.streamUrl = none) (rest : settings.restUrl = none) :
    settings.environment.Site settings.websocketUrl settings.restBaseUrl
      (settings.subscriptions.map (·.streamId)) := by
  rw [websocketUrl, restBaseUrl, stream, rest, subscriptions]
  cases settings.environment with
  | live => exact .live
  | paper => exact .paper

/-- Lookups in which the variables mean the same, whatever else they hold, give the same settings or
the same error. A lookup is accepted exactly when the three required variables are there and not
blank, the number of attempts is not zero, and the jitter is a number from zero to one, where the
last two may be absent or of the wrong type. The codes of the settings are then trimmed and not
empty, and without addresses of their own both addresses and all streams belong to one
environment. -/
theorem settings_of_variables :
    (∀ lookup other : Lookup, lookup.Alike other → ofLookup lookup = ofLookup other) ∧
    (∀ lookup : Lookup, (∃ settings, ofLookup lookup = .ok settings) ↔
      (∀ name ∈ ["KIS_APP_KEY", "KIS_APP_SECRET", "KIS_HTS_ID"],
        ∃ raw, lookup name = some raw ∧ trim raw ≠ "") ∧
      (lookup.whole "KIS_MAX_RECONNECT_ATTEMPTS" (2 ^ 32)).getD 5 ≠ 0 ∧
      ∃ v, (((lookup.optional "KIS_RECONNECT_JITTER").bind Binary64.read?).getD
        Binary64.zero).value? = some v ∧ 0 ≤ v ∧ v ≤ 1) ∧
    ∀ (lookup : Lookup) (settings : Settings), ofLookup lookup = .ok settings →
      (∀ code ∈ settings.reissueCodes, code ≠ "" ∧ trim code = code) ∧
      (lookup.optional "KIS_WS_URL" = none → lookup.optional "KIS_REST_URL" = none →
        settings.environment.Site settings.websocketUrl settings.restBaseUrl
          (settings.subscriptions.map (·.streamId))) := by
  refine ⟨fun lookup other alike => alike.ofLookup_eq, ?_, ?_⟩
  · intro lookup
    simp only [ofLookup_eq_ok_iff, Lookup.required_eq_ok_iff, Binary64.inUnitInterval_iff,
      List.forall_mem_cons, List.not_mem_nil, false_imp_iff, implies_true, and_true]
    constructor
    · rintro ⟨_, _, _, _, ⟨raw, given, filled, -⟩, ⟨raw', given', filled', -⟩,
        ⟨raw'', given'', filled'', -⟩, attempts, jitter, -⟩
      exact ⟨⟨⟨raw, given, filled⟩, ⟨raw', given', filled'⟩, raw'', given'', filled''⟩, attempts,
        jitter⟩
    · rintro ⟨⟨⟨raw, given, filled⟩, ⟨raw', given', filled'⟩, raw'', given'', filled''⟩, attempts,
        jitter⟩
      exact ⟨_, _, _, _, ⟨raw, given, filled, rfl⟩, ⟨raw', given', filled', rfl⟩,
        ⟨raw'', given'', filled'', rfl⟩, attempts, jitter, rfl⟩
  · intro lookup settings accepted
    refine ⟨fun code => trim_of_mem_reissueCodes accepted, fun stream rest => ?_⟩
    obtain ⟨_, _, _, -, -, -, -, -, rfl⟩ := ofLookup_eq_ok_iff.1 accepted
    exact site_of_unset stream rest

/-- Variables for the live environment. -/
def tidyLookup : Lookup :=
  Lookup.ofEntries ["KIS_APP_KEY=app-key", "KIS_APP_SECRET=app-secret", "KIS_HTS_ID=hts-user",
    "KIS_ENV=live", "KIS_REISSUE_MESSAGE_CODES=opsp0011 , ,EGW00123"]

/-- The same variables with blanks around them, and others that do not matter. -/
def untidyLookup : Lookup :=
  Lookup.ofEntries ["KIS_APP_KEY= app-key", "KIS_APP_SECRET=app-secret\t", "KIS_HTS_ID=hts-user",
    "KIS_ENV=\u3000live ", "KIS_REISSUE_MESSAGE_CODES= opsp0011 , ,EGW00123 ", "KIS_WS_URL= ",
    "KIS_PING_INTERVAL_SECS=soon", "KIS_METRICS_PORT=65536", "KIS_RECONNECT_JITTER=0,5",
    "KIS_LOG_LEVEL=debug"]

/-- These two lookups configure the same settings, which are accepted: those of the live
environment, with two codes. -/
theorem untidyLookup_accepted :
    untidyLookup.Alike tidyLookup ∧ ofLookup untidyLookup = ofLookup tidyLookup ∧
      ∃ settings, ofLookup untidyLookup = .ok settings ∧ settings.environment = .live ∧
        settings.reissueCodes = ["OPSP0011", "EGW00123"] ∧
        (∀ code ∈ settings.reissueCodes, code ≠ "" ∧ trim code = code) ∧
        settings.environment.Site settings.websocketUrl settings.restBaseUrl
          (settings.subscriptions.map (·.streamId)) := by
  have alike : untidyLookup.Alike tidyLookup := by decide +kernel
  obtain ⟨alikes, accepts, keep⟩ := settings_of_variables
  have jitter : ((untidyLookup.optional "KIS_RECONNECT_JITTER").bind Binary64.read?).getD
      Binary64.zero = Binary64.zero := by decide
  obtain ⟨settings, accepted⟩ := (accepts untidyLookup).2 ⟨by decide, by decide, 0,
    by rw [jitter]; simp [Binary64.zero, Binary64.value?], le_rfl, zero_le_one⟩
  obtain ⟨codes, site⟩ := keep untidyLookup settings accepted
  obtain ⟨_, _, _, -, -, -, -, -, contents⟩ := ofLookup_eq_ok_iff.1 accepted
  have environment : settings.environment = .live := by
    rw [contents]
    rfl
  have listed : settings.reissueCodes = ["OPSP0011", "EGW00123"] := by
    rw [contents]
    rfl
  exact ⟨alike, alikes _ _ alike, settings, accepted, environment, listed, codes,
    site (by decide) (by decide)⟩

end Settings

end FillFeed
