import Mathlib
import FillFeed.Proofs.Connect.Step
import FillFeed.Proofs.Json.Text
import FillFeed.Proofs.Shared

/-!
# Where keys come from

A call that connects has a key `pending` while it is written to the cache or carried into the next
attempt, and a key `inUse` from the moment a transport is opened for it. A pending key was issued
(`Connect.Step.pending_cases`), and a key in use was pending or read from the cache
(`Connect.Step.inUse_cases`). Every request is made with the key in use
(`Connect.Step.inUse_of_sendText`), which the text of the request determines
(`Request.subscribe_write_inj`).
-/

namespace FillFeed

/-- The text of a request determines its key. -/
lemma Request.approvalKey_of_write {r r' : Request} (same : r.write = r'.write) :
    r.approvalKey = r'.approvalKey := by
  have chars : Json.writeChars r.toJson = Json.writeChars r'.toJson :=
    String.ofList_injective same
  simp only [toJson, Json.writeChars, Json.writeMembers, List.append_assoc, List.cons_append,
    List.cons.injEq, true_and, List.append_cancel_left_eq] at chars
  exact (Json.stringChars_append_inj chars).1

/-- The text of a request to subscribe determines the key. -/
lemma Request.subscribe_write_inj {key key' : ApprovalKey} {s s' : Subscription}
    (same : (subscribe key s).write = (subscribe key' s').write) : key = key' := by
  have texts : key.text = key'.text := approvalKey_of_write same
  cases key
  cases key'
  cases texts
  rfl

/-- The key that a reply brings from the issuer. -/
def Reply.issued? : Reply → Option ApprovalKey
  | .keyIssued (.ok key) => some key
  | _ => none

/-- The key that a reply brings from the cache. -/
def Reply.cached? : Reply → Option ApprovalKey
  | .cacheRead (.ok (some raw)) => ApprovalKey.parse? raw
  | _ => none

namespace Approval

/-- The issued key that is being written to the cache. -/
def Stage.pending : Stage → Option ApprovalKey
  | .caching key => some key
  | _ => none

/-- The key that a request goes on with, or is answered with. -/
def Progress.key? : Progress → Option ApprovalKey
  | .waits stage => stage.pending
  | .done (.ok key) => some key
  | .done (.error _) => none

/-- A key that a request goes on with was pending, was just issued, or was read from the cache. -/
lemma Step.key_cases {stage : Stage} {r : Reply} {p : Progress} {effects : List Effect}
    (st : Step stage r p effects) {key : ApprovalKey} (has : p.key? = some key) :
    stage.pending = some key ∨ r.issued? = some key ∨
      (stage = .reading ∧ r.cached? = some key ∧ p = .done (.ok key)) := by
  cases st with
  | hit read => cases has; exact .inr (.inr ⟨rfl, read, rfl⟩)
  | blank | miss | unread | refused => cases has
  | issued => cases has; exact .inr (.inl rfl)
  | written | unwritten => cases has; exact .inl rfl

/-- A key that is read from the cache answers the request. -/
lemma Step.of_cached {stage : Stage} {r : Reply} {p : Progress} {effects : List Effect}
    (st : Step stage r p effects) {key : ApprovalKey} (cached : r.cached? = some key) :
    stage = .reading ∧ p = .done (.ok key) := by
  cases st with
  | hit read =>
    cases read.symm.trans cached
    exact ⟨rfl, rfl⟩
  | blank read => cases read.symm.trans cached
  | _ => cases cached

/-- A request ends with the key that was being written to the cache. -/
lemma Step.done_of_pending {stage : Stage} {r : Reply} {p : Progress} {effects : List Effect}
    (st : Step stage r p effects) {key : ApprovalKey} (pending : stage.pending = some key) :
    p = .done (.ok key) := by
  cases st with
  | written | unwritten => cases pending; rfl
  | _ => cases pending

/-- A request for a key sends nothing. -/
lemma Step.sends_nothing {stage : Stage} {r : Reply} {p : Progress} {effects : List Effect}
    (st : Step stage r p effects) {t : TransportId} {text : String} :
    .began (.sendText t text) ∉ effects := by
  cases st <;> simp

end Approval

namespace Client

/-- The key that a happening brings from the issuer. -/
def Happening.issued? : Happening → Option ApprovalKey
  | .reply r _ => r.issued?
  | _ => none

/-- The key that a happening brings from the cache. -/
def Happening.cached? : Happening → Option ApprovalKey
  | .reply r _ => r.cached?
  | _ => none

/-- A key comes from the cache in a text that it was read from. -/
lemma Happening.eq_of_cached? {h : Happening} {key : ApprovalKey} (cached : h.cached? = some key) :
    ∃ raw now, h = .reply (.cacheRead (.ok (some raw))) now ∧
      ApprovalKey.parse? raw = some key := by
  unfold cached? at cached
  split at cached
  · unfold Reply.cached? at cached
    split at cached
    · exact ⟨_, _, rfl, cached⟩
    · cases cached
  · cases cached

/-- Whether a happening brings an open transport. -/
def Happening.opens : Happening → Bool
  | .reply (.opened (.ok ())) _ => true
  | _ => false

namespace Attempt

/-- The issued key that is being written to the cache. -/
def pending : Attempt → Option ApprovalKey
  | .credential stage => stage.pending
  | _ => none

/-- The key that the transport of an attempt is opened for. -/
def inUse : Attempt → Option ApprovalKey
  | .opening key => some key
  | .sending h | .acking h => some h.key
  | _ => none

/-- The pending key that an attempt goes on with. -/
def Progress.pending : Progress → Option ApprovalKey
  | .waits a => a.pending
  | .done _ => none

/-- The key in use that an attempt goes on with. -/
def Progress.inUse : Progress → Option ApprovalKey
  | .waits a => a.inUse
  | .done _ => none

/-- A key of an attempt is pending or in use, not both. -/
lemma inUse_of_pending {a : Attempt} {key : ApprovalKey} (pending : a.pending = some key) :
    a.inUse = none := by
  cases a with
  | credential => rfl
  | _ => cases pending

/-- Whether an attempt is making its subscriptions. -/
def Subscribes : Attempt → Prop
  | .sending _ | .acking _ => True
  | _ => False

/-- Subscribing ends, or goes on with the key, which is used and not pending. -/
lemma subscribe_keys (shared : Shared) (key : ApprovalKey) (t : TransportId) (codec : Codec)
    (effects : List Effect) (rest : List Subscription) :
    (subscribe shared key t codec effects rest).progress.pending = none ∧
      ((subscribe shared key t codec effects rest).progress.inUse = none ∨
        (subscribe shared key t codec effects rest).progress.inUse = some key) := by
  obtain e | ⟨s, rest', -, e⟩ := subscribe_cases shared key t codec effects rest
  · rw [e]
    exact ⟨rfl, .inl rfl⟩
  · rw [e]
    exact ⟨rfl, .inr rfl⟩

variable {cfg : Config} {shared : Shared} {a : Attempt} {h : Happening} {o : Outcome}
  {key : ApprovalKey}

/-- A pending key of an attempt was pending before, or was just issued. -/
lemma Step.pending_cases (st : Step cfg shared a h o) (has : o.progress.pending = some key) :
    a.pending = some key ∨ h.issued? = some key := by
  cases st with
  | obtaining st =>
    obtain before | issued | ⟨-, -, ended⟩ := st.key_cases has
    · exact .inl before
    · exact .inr issued
    · cases ended
  | opened =>
    rw [(subscribe_keys ..).1] at has
    cases has
  | accepted =>
    rw [(subscribe_keys ..).1] at has
    cases has
  | _ => cases has

/-- A key that an attempt uses was used or pending before, or was just read from the cache. -/
lemma Step.inUse_cases (st : Step cfg shared a h o) (has : o.progress.inUse = some key) :
    a.inUse = some key ∨ a.pending = some key ∨
      (h.cached? = some key ∧ o.progress = .waits (.opening key)) := by
  cases st with
  | obtained st =>
    cases has
    obtain before | issued | ⟨-, cached, -⟩ := st.key_cases rfl
    · exact .inr (.inl before)
    -- an issued key is written to the cache before it is used
    · cases st <;> cases issued
    · exact .inr (.inr ⟨cached, rfl⟩)
  | opened | accepted =>
    obtain unused | same := (subscribe_keys ..).2
    · cases unused.symm.trans has
    · exact .inl (same.symm.trans has)
  | sent | ponged => exact .inl has
  | _ => cases has

/-- An attempt keeps its key until it ends with it. -/
lemma Step.keeps_key (st : Step cfg shared a h o)
    (has : a.pending = some key ∨ a.inUse = some key) :
    o.progress.pending = some key ∨ o.progress.inUse = some key ∨
      (a.inUse = some key ∧ o.progress.inUse = none) := by
  obtain pending | inUse := has
  · cases st with
    | obtaining st | unobtained st => cases st.done_of_pending pending
    | obtained st =>
      cases st.done_of_pending pending
      exact .inr (.inl rfl)
    | _ => cases pending
  · cases st with
    | opened | accepted =>
      obtain unused | same := (subscribe_keys ..).2
      · exact .inr (.inr ⟨inUse, unused⟩)
      · exact .inr (.inl (same.trans inUse))
    | sent | ponged => exact .inr (.inl inUse)
    | unopened | unopenedLate | unsent | rejected | ended | unreceived | unanswered =>
      exact .inr (.inr ⟨inUse, rfl⟩)
    | _ => cases inUse

/-- What subscribing sends is a request with the key. -/
lemma subscribe_sends {key : ApprovalKey} {t : TransportId} {codec : Codec}
    {effects : List Effect} {rest : List Subscription} {u : TransportId} {text : String}
    (sends : .began (.sendText u text) ∈ (subscribe shared key t codec effects rest).effects) :
    .began (.sendText u text) ∈ effects ∨ ∃ s, text = (Request.subscribe key s).write := by
  obtain e | ⟨s, rest', -, e⟩ := subscribe_cases shared key t codec effects rest
  · rw [e] at sends
    exact .inl sends
  · rw [e] at sends
    obtain before | last := List.mem_append.1 sends
    · exact .inl before
    · cases List.mem_singleton.1 last
      exact .inr ⟨s, rfl⟩

/-- What an attempt sends is a request with the key that it uses. -/
lemma Step.inUse_of_sendText (st : Step cfg shared a h o) {u : TransportId} {text : String}
    (sends : .began (.sendText u text) ∈ o.effects) :
    ∃ key s, a.inUse = some key ∧ text = (Request.subscribe key s).write := by
  cases st with
  | obtaining st | unobtained st => exact absurd sends st.sends_nothing
  | obtained st =>
    obtain before | last := List.mem_append.1 sends
    · exact absurd before st.sends_nothing
    · cases List.mem_singleton.1 last
  | @opened key =>
    obtain before | ⟨s, e⟩ := subscribe_sends sends
    · obtain first | before := List.mem_cons.1 before
      · cases first
      · exact absurd before began_notMem_setState
    · exact ⟨key, s, rfl, e⟩
  | @accepted h =>
    obtain before | ⟨s, e⟩ := subscribe_sends sends
    · simp at before
    · exact ⟨h.key, s, rfl, e⟩
  | abandoned => exact absurd sends began_notMem_closeNotices
  | _ => simp at sends

/-- Where an attempt that opens a transport gets: it makes its first request if it gets the
transport, and it fails otherwise. -/
lemma Step.of_opening (st : Step cfg shared (.opening key) h o) :
    (h.opens = true ∧ (∀ e, o.progress ≠ .done (.error e)) ∧
        ∀ s rest, cfg.subscriptions = s :: rest →
          ∃ u, .began (.sendText u (Request.subscribe key s).write) ∈ o.effects) ∨
      (h.opens = false ∧ ∃ e, o = ⟨shared, .done (.error e), []⟩) := by
  cases st with
  | opened =>
    refine .inl ⟨rfl, ?_, ?_⟩
    · intro e
      exact subscribe_ne_error
    · intro s rest subscriptions
      rw [subscriptions]
      exact ⟨_, List.mem_append_right _ (List.mem_singleton_self _)⟩
  | unopened => exact .inr ⟨rfl, _, rfl⟩
  | unopenedLate => exact .inr ⟨rfl, _, rfl⟩

/-- An attempt that gets a key from the cache opens a transport for it. -/
lemma Step.of_cached (st : Step cfg shared a h o) (cached : h.cached? = some key) :
    o.progress = .waits (.opening key) := by
  cases st with
  | obtaining st => cases (st.of_cached cached).2
  | obtained st =>
    cases (st.of_cached cached).2
    rfl
  | unobtained st => cases (st.of_cached cached).2
  | _ => cases cached

/-- An attempt makes subscriptions only if there are some to make. -/
lemma Step.subscribes_cases {a' : Attempt} (st : Step cfg shared a h o)
    (goes : o.progress = .waits a') (subscribes : a'.Subscribes) :
    a.Subscribes ∨ cfg.subscriptions ≠ [] := by
  cases st with
  | obtaining | obtained | unsent | rejected | ended | unreceived | unanswered =>
    cases goes
    exact subscribes.elim
  | unobtained | unopened | unopenedLate | abandoned | abandonedLate => cases goes
  | opened => exact .inr (ne_nil_of_subscribe goes)
  | sent | ponged | accepted => exact .inl trivial

end Attempt

namespace Connect

/-- The issued key that is being written to the cache, or carried into the next attempt. -/
def pending : Connect → Option ApprovalKey
  | .checking _ carried | .announcing _ carried | .launching _ carried | .deciding _ carried
  | .pausing _ carried _ => carried
  | .attempting _ a => a.pending
  | .reissuing _ stage => stage.pending
  | _ => none

/-- The key that the transport of the current attempt is opened for. -/
def inUse : Connect → Option ApprovalKey
  | .attempting _ a => a.inUse
  | _ => none

/-- Whether an attempt is making its subscriptions. -/
def Subscribes : Connect → Prop
  | .attempting _ a => a.Subscribes
  | _ => False

/-- A call that has a key pending or in use, or that is over. -/
inductive Carries (key : ApprovalKey) : Connect → Prop where
  | pending {c : Connect} (pending : c.pending = some key) : Carries key c
  | inUse {c : Connect} (inUse : c.inUse = some key) : Carries key c
  | crashed {cause} : Carries key (.crashed cause)
  | finished {result} : Carries key (.finished result)

/-- Whether a key is being replaced without asking the cache, as it should be. -/
def Forced : Connect → Prop
  | .reissuing _ stage => stage ≠ .reading
  | _ => True

variable {cfg : Config} {shared : Shared} {c : Connect} {h : Happening} {o : Outcome}
  {key : ApprovalKey}

/-- A failed attempt leaves no key and makes no subscription, and what it sends is what it sent
before. -/
lemma failed_keys {retry : Retry} {cause : ClientError} {effects : List Effect} :
    (failed cfg shared retry cause effects).next.pending = none ∧
      (failed cfg shared retry cause effects).next.inUse = none ∧
      (failed cfg shared retry cause effects).next.Forced ∧
      ¬(failed cfg shared retry cause effects).next.Subscribes ∧
      ∀ u text, .began (.sendText u text) ∈ (failed cfg shared retry cause effects).effects →
        .began (.sendText u text) ∈ effects := by
  obtain ⟨rejection, -, e⟩ | ⟨-, e⟩ := failed_cases cfg shared retry cause effects
  · rw [e]
    refine ⟨rfl, rfl, nofun, id, ?_⟩
    intro u text sends
    simpa [began_notMem_setState] using sends
  · rw [e]
    refine ⟨rfl, rfl, trivial, id, ?_⟩
    intro u text sends
    simpa [began_notMem_setState] using sends

/-- A call that connects does not come to ask the cache for a replacement. -/
lemma Step.forced (st : Step cfg shared c h o) (forced : c.Forced) : o.next.Forced := by
  cases st with
  | failed => exact failed_keys.2.2.1
  | reissuing st => cases st <;> exact nofun
  | _ => trivial

/-- A pending key was pending before, or was just issued. -/
lemma Step.pending_cases (st : Step cfg shared c h o) (forced : c.Forced)
    (has : o.next.pending = some key) : c.pending = some key ∨ h.issued? = some key := by
  cases st with
  | cleared | announced | paused | resumed => exact .inl has
  | launched =>
    rename_i retry carried
    cases carried <;> cases has
  | attempting st => exact st.pending_cases has
  | failed =>
    rw [failed_keys.1] at has
    cases has
  | reissuing st =>
    obtain before | issued | ⟨-, -, ended⟩ := st.key_cases has
    · exact .inl before
    · exact .inr issued
    · cases ended
  | reissued st =>
    obtain before | issued | ⟨reading, -⟩ := st.key_cases has
    · exact .inl before
    · exact .inr issued
    -- a replacement does not come from the cache
    · exact absurd reading forced
  | _ => cases has

/-- A key in use was in use or pending before, or was just read from the cache. -/
lemma Step.inUse_cases (st : Step cfg shared c h o) (has : o.next.inUse = some key) :
    c.inUse = some key ∨ c.pending = some key ∨
      (h.cached? = some key ∧ ∃ retry, o.next = .attempting retry (.opening key)) := by
  cases st with
  | launched =>
    rename_i retry carried
    cases carried with
    | none => cases has
    | some key => exact .inr (.inl has)
  | attempting st =>
    obtain before | pending | ⟨cached, opening⟩ := st.inUse_cases has
    · exact .inl before
    · exact .inr (.inl pending)
    · cases opening
      exact .inr (.inr ⟨cached, _, rfl⟩)
  | failed =>
    rw [failed_keys.2.1] at has
    cases has
  | _ => cases has

/-- A call keeps its key until an attempt with it ends. -/
lemma Step.carries (st : Step cfg shared c h o) (carries : Carries key c) :
    Carries key o.next ∨ (c.inUse = some key ∧ o.next.inUse = none) := by
  cases carries with
  | pending pending =>
    cases st with
    | halted | unlaunched | dropped | exhausted | woken => exact .inl .finished
    | unpausable => exact .inl .crashed
    | cleared | announced | paused | resumed => exact .inl (.pending pending)
    | launched =>
      cases pending
      exact .inl (.inUse rfl)
    | attempting st =>
      obtain pending | inUse | ended := st.keeps_key (.inl pending)
      · exact .inl (.pending pending)
      · exact .inl (.inUse inUse)
      · exact .inr ended
    -- a key is not pending any more when its attempt ends
    | succeeded st | failed st =>
      obtain pending | inUse | ⟨used, -⟩ := st.keeps_key (.inl pending)
      · cases pending
      · cases inUse
      · cases (Attempt.inUse_of_pending pending).symm.trans used
    | reissuing st | unreissued st => cases st.done_of_pending pending
    | reissued st =>
      cases st.done_of_pending pending
      exact .inl (.pending rfl)
    | _ => cases pending
  | inUse inUse =>
    cases st with
    | dropped => exact .inl .finished
    | attempting st =>
      obtain pending | inUse | ended := st.keeps_key (.inr inUse)
      · exact .inl (.pending pending)
      · exact .inl (.inUse inUse)
      · exact .inr ended
    | succeeded => exact .inr ⟨inUse, rfl⟩
    | failed => exact .inr ⟨inUse, failed_keys.2.1⟩
    | _ => cases inUse
  | crashed | finished => cases st

/-- What a call that connects sends is a request with the key that it uses. -/
lemma Step.inUse_of_sendText (st : Step cfg shared c h o) {u : TransportId} {text : String}
    (sends : .began (.sendText u text) ∈ o.effects) :
    ∃ key s, c.inUse = some key ∧ text = (Request.subscribe key s).write := by
  cases st with
  | announced => simp [began_notMem_setState] at sends
  | launched =>
    rename_i retry carried
    cases carried <;> simp [Attempt.begin, Attempt.dial, Approval.get, Approval.Stage.call] at sends
  | attempting st => exact st.inUse_of_sendText sends
  | succeeded st => exact st.inUse_of_sendText sends
  | failed st => exact st.inUse_of_sendText (failed_keys.2.2.2.2 u text sends)
  | reissuing st => exact absurd sends st.sends_nothing
  | reissued st => exact absurd sends st.sends_nothing
  | unreissued st =>
    obtain before | last := List.mem_append.1 sends
    · exact absurd before st.sends_nothing
    · simp at last
  | replaced | discarded => exact absurd sends began_notMem_closeNotices
  | published => simp [began_notMem_setState] at sends
  | _ => simp at sends

/-- Where a call gets whose attempt opens a transport: it makes its first request if it gets the
transport, and otherwise it uses no key and sends nothing. -/
lemma Step.of_opening {retry : Retry}
    (st : Step cfg shared (.attempting retry (.opening key)) h o) :
    (h.opens = true ∧ ∀ s rest, cfg.subscriptions = s :: rest →
        ∃ u, .began (.sendText u (Request.subscribe key s).write) ∈ o.effects) ∨
      (h.opens = false ∧ o.next.inUse = none ∧
        ∀ u text, .began (.sendText u text) ∉ o.effects) := by
  cases st with
  | dropped => exact .inr ⟨rfl, rfl, by simp⟩
  | attempting st =>
    obtain ⟨opens, -, first⟩ | ⟨-, e, failed⟩ := st.of_opening
    · exact .inl ⟨opens, first⟩
    · cases failed
  | succeeded st =>
    obtain ⟨opens, -, first⟩ | ⟨-, e, failed⟩ := st.of_opening
    · exact .inl ⟨opens, first⟩
    · cases failed
  | failed st =>
    obtain ⟨-, unfailed, -⟩ | ⟨unopened, e, failed⟩ := st.of_opening
    · exact absurd rfl (unfailed _)
    · cases failed
      refine .inr ⟨unopened, failed_keys.2.1, ?_⟩
      intro u text sends
      simpa using failed_keys.2.2.2.2 u text sends

/-- A call that gets a key from the cache opens a transport for it. -/
lemma Step.of_cached (st : Step cfg shared c h o) (forced : c.Forced)
    (cached : h.cached? = some key) : ∃ retry, o.next = .attempting retry (.opening key) := by
  cases st with
  | attempting st =>
    cases st.of_cached cached
    exact ⟨_, rfl⟩
  | succeeded st => cases st.of_cached cached
  | failed st => cases st.of_cached cached
  | reissuing st => exact absurd (st.of_cached cached).1 forced
  | reissued st => exact absurd (st.of_cached cached).1 forced
  | unreissued st => exact absurd (st.of_cached cached).1 forced
  | _ => cases cached

/-- A call makes subscriptions only if there are some to make. -/
lemma Step.subscribes_cases (st : Step cfg shared c h o) (subscribes : o.next.Subscribes) :
    c.Subscribes ∨ cfg.subscriptions ≠ [] := by
  cases st with
  | launched =>
    rename_i retry carried
    cases carried <;> exact subscribes.elim
  | attempting st => exact st.subscribes_cases rfl subscribes
  | failed => exact absurd subscribes failed_keys.2.2.2.1
  | _ => exact subscribes.elim

end Connect

end Client

end FillFeed
