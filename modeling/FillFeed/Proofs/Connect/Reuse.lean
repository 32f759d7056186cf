import Mathlib
import FillFeed.Proofs.Connect.Keys
import FillFeed.Proofs.Course

/-!
# Reuse of a rejected key

When the server rejects the approval key of an attempt, the call has a new one issued and carries
it into the next attempt. What becomes of the rejected key afterwards depends on the cache alone:
a later attempt of the call makes a request with it exactly when it reads it back from the cache and
gets its transport (`rejected_key_reused_iff`). This cannot happen any more once a key has been
written to the cache; but as long as every write fails, only the very next attempt is safe, because
the new key is carried over once.

The argument rests on where keys come from (`Course.reopens`), on what the cache can hold
(`truthful`, `Course.not_cached`) when nobody else writes to it, and on how long a call keeps the
key that was issued (`Course.carries`).
-/

namespace FillFeed.Client.Connect

/-- A deed that connecting does. -/
def Valid (cfg : Config) (d : Deed Connect) : Prop :=
  d.stood.advance cfg d.found d.met = some ⟨d.left, d.goes, d.did⟩

/-- What a call that connects does when it meets something. -/
def deed? (cfg : Config) (found : Shared) (c : Connect) (h : Happening) : Option (Deed Connect) :=
  (c.advance cfg found h).map fun o => ⟨found, c, h, o.shared, o.next, o.effects⟩

/-- A run of a call that connects. -/
abbrev Course (cfg : Config) : Connect → List (Deed Connect) → Connect → Prop :=
  Client.Course (Valid cfg)

/-- A deed that sends a request with a key. -/
def Requests (key : ApprovalKey) (d : Deed Connect) : Prop :=
  ∃ t s, .began (.sendText t (Request.subscribe key s).write) ∈ d.did

/-- A deed in which an attempt with a key fails because of an ack whose code calls for a new one. -/
def Rejects (cfg : Config) (key : ApprovalKey) (d : Deed Connect) : Prop :=
  ∃ retry h cause, d.stood = .attempting retry (.acking h) ∧ h.key = key ∧
    d.goes = .attempting retry (.abandoning h.transport (.rejected cause)) ∧
    cause.hasCode cfg.reissueCodes = true

/-- A deed that writes a key to the cache. -/
def Stores (key : ApprovalKey) (d : Deed Connect) : Prop :=
  d.stood.pending = some key ∧ ∃ now, d.met = .reply (.cacheWritten (.ok ())) now

/-- A deed that ends an attempt with a key. -/
def Ends (key : ApprovalKey) (d : Deed Connect) : Prop :=
  d.stood.inUse = some key ∧ d.goes.inUse = none

/-- What the cache may hold after a deed: the key that was written, and also the one that was not
if the failure came after the write. -/
def contents (held : List String) (d : Deed Connect) : List String :=
  match d.stood.pending, d.met with
  | some key, .reply (.cacheWritten (.ok ())) _ => [key.text]
  | some key, .reply (.cacheWritten (.error _)) _ => key.text :: held
  | _, _ => held

/-- The text that a happening brings from the cache. -/
def read? : Happening → Option String
  | .reply (.cacheRead (.ok (some raw))) _ => some raw
  | _ => none

/-- Whether all that is read from the cache is something that it may hold. -/
def truthful : List String → List (Deed Connect) → Bool
  | _, [] => true
  | held, d :: ds =>
    (read? d.met).all (fun raw => held.contains raw) && truthful (contents held d) ds

/-- Among some deeds a key is read from the cache and a transport is opened for it. -/
def Reopens (key : ApprovalKey) (ds : List (Deed Connect)) : Prop :=
  ∃ u r o v, ds = u ++ r :: o :: v ∧ r.met.cached? = some key ∧ o.met.opens = true

/-- The last of some deeds has read a key from the cache, and a transport is being opened for it. -/
def JustRead (key : ApprovalKey) (ds : List (Deed Connect)) (c : Connect) : Prop :=
  ∃ u r retry, ds = u ++ [r] ∧ r.met.cached? = some key ∧ c = .attempting retry (.opening key)

/-- A call that holds no key on its way to the cache or to the next attempt that is the given one,
nor comes to ask the cache for a replacement. -/
structure Clear (key : ApprovalKey) (c : Connect) : Prop where
  forced : c.Forced
  pending : c.pending ≠ some key

section

variable {cfg : Config} {key : ApprovalKey} {d : Deed Connect} {ds xs ys : List (Deed Connect)}
  {a c : Connect} {held : List String}

/-- A deed follows the rules. -/
lemma Valid.step (valid : Valid cfg d) :
    Step cfg d.found d.stood d.met ⟨d.left, d.goes, d.did⟩ :=
  advance_iff.1 valid

/-- A call that connects does valid deeds only. -/
lemma valid_of_deed? {found : Shared} {h : Happening} (does : deed? cfg found c h = some d) :
    Valid cfg d ∧ d.stood = c := by
  obtain ⟨o, goes, rfl⟩ := Option.map_eq_some_iff.1 does
  exact ⟨goes, rfl⟩

/-- A call stays clear of a key that is not issued. -/
lemma Valid.clear (valid : Valid cfg d) (unissued : d.met.issued? ≠ some key)
    (clear : Clear key d.stood) : Clear key d.goes := by
  refine ⟨valid.step.forced clear.forced, ?_⟩
  intro has
  obtain before | issued := valid.step.pending_cases clear.forced has
  · exact clear.pending before
  · exact unissued issued

/-- A course stays clear of a key that is not issued. -/
lemma Course.clear (run : Course cfg a ds c) (unissued : ∀ d ∈ ds, d.met.issued? ≠ some key)
    (clear : Clear key a) : Clear key c :=
  Client.Course.preserves run (fun d mem valid => Valid.clear valid (unissued d mem)) clear

/-- A request is made with the key in use. -/
lemma Valid.inUse_of_requests (valid : Valid cfg d) (requests : Requests key d) :
    d.stood.inUse = some key := by
  obtain ⟨t, s, sends⟩ := requests
  obtain ⟨key', s', inUse, text⟩ := valid.step.inUse_of_sendText sends
  rw [inUse, Request.subscribe_write_inj text]

/-- A key is pending or in use, not both. -/
lemma inUse_of_pending {k : ApprovalKey} (pending : c.pending = some k) : c.inUse = none := by
  cases c with
  | attempting retry attempt => exact Attempt.inUse_of_pending pending
  | _ => rfl

/-- More deeds do not undo what was opened. -/
lemma Reopens.append (reopens : Reopens key xs) (ys : List (Deed Connect)) :
    Reopens key (xs ++ ys) := by
  obtain ⟨u, r, o, v, rfl, cached, opens⟩ := reopens
  exact ⟨u, r, o, v ++ ys, by simp, cached, opens⟩

/-- A call that has just read a key can go on with it only by opening a transport. -/
lemma JustRead.reopens (just : JustRead key ds d.stood) (valid : Valid cfg d)
    (goesOn : d.goes.inUse = some key ∨ Requests key d) : Reopens key (ds ++ [d]) := by
  obtain ⟨u, r, retry, rfl, cached, opening⟩ := just
  have st := valid.step
  rw [opening] at st
  obtain ⟨opens, -⟩ | ⟨-, unused, unsent⟩ := st.of_opening
  · exact ⟨u, r, d, [], by simp, cached, opens⟩
  · obtain inUse | ⟨t, s, sends⟩ := goesOn
    · cases unused.symm.trans inUse
    · exact absurd sends (unsent _ _)

/-- A key that is neither issued nor at hand can be used, and requests be made with it, only after
it was read from the cache. -/
lemma Course.reopens (run : Course cfg a ds c) (unissued : ∀ d ∈ ds, d.met.issued? ≠ some key)
    (clear : Clear key a) (unused : a.inUse ≠ some key) :
    (c.inUse = some key → JustRead key ds c ∨ Reopens key ds) ∧
      ∀ d ∈ ds, Requests key d → Reopens key ds := by
  -- a request is made with the key in use, so the two parts go through together
  induction run with
  | refl => exact ⟨fun inUse => absurd inUse unused, fun d mem => absurd mem List.not_mem_nil⟩
  | @tail ds d run valid ih =>
    have unissued' : ∀ d ∈ ds, d.met.issued? ≠ some key := fun d mem => unissued d (by simp [mem])
    obtain ⟨used, requested⟩ := ih unissued'
    have stays : d.stood.inUse = some key → d.goes.inUse = some key ∨ Requests key d →
        Reopens key (ds ++ [d]) := by
      intro before goesOn
      obtain just | reopens := used before
      · exact just.reopens valid goesOn
      · exact reopens.append [d]
    constructor
    · intro inUse
      obtain before | pending | ⟨cached, retry, opening⟩ := (Valid.step valid).inUse_cases inUse
      · exact .inr (stays before (.inl inUse))
      · exact absurd pending (Course.clear run unissued' clear).pending
      · exact .inl ⟨ds, d, retry, rfl, cached, opening⟩
    · intro x mem requests
      obtain before | last := List.mem_append.1 mem
      · exact (requested x before requests).append [d]
      · cases List.mem_singleton.1 last
        exact stays (Valid.inUse_of_requests valid requests) (.inr requests)

/-- A course keeps a key until an attempt with it ends. -/
lemma Course.carries (run : Course cfg a ds c) (carries : Carries key a) :
    Carries key c ∨ ∃ d ∈ ds, Ends key d := by
  induction run with
  | refl => exact .inl carries
  | @tail ds d run valid ih =>
    obtain before | ⟨x, mem, ends⟩ := ih
    · obtain after | ends := (Valid.step valid).carries before
      · exact .inl after
      · exact .inr ⟨d, by simp, ends⟩
    · exact .inr ⟨x, by simp [mem], ends⟩

/-- A call that has another key makes a request with a key only after an attempt with the other one
has ended. -/
lemma Course.ends_of_requests {k : ApprovalKey} (run : Course cfg a (xs ++ d :: ys) c)
    (carries : Carries k a) (other : k ≠ key) (requests : Requests key d) :
    ∃ x ∈ xs, Ends k x := by
  obtain ⟨m, reached, onwards⟩ := Client.Course.split run
  obtain ⟨rfl, valid, -⟩ := Client.Course.head onwards
  have inUse : d.stood.inUse = some key := Valid.inUse_of_requests valid requests
  obtain carries | ended := Course.carries reached carries
  · exfalso
    generalize d.stood = stood at carries inUse
    cases carries with
    | pending pending => cases (inUse_of_pending pending).symm.trans inUse
    | inUse inUse' => exact other (Option.some_inj.1 (inUse'.symm.trans inUse))
    | crashed | finished => cases inUse
  · exact ended

/-- A call that makes its subscriptions has some to make. -/
lemma Course.subscriptions_ne_nil (run : Course cfg (start cfg) ds c) (subscribes : c.Subscribes) :
    cfg.subscriptions ≠ [] := by
  refine Client.Course.preserves (P := fun c => c.Subscribes → cfg.subscriptions ≠ []) run ?_
    False.elim subscribes
  intro d _ valid before subscribes
  obtain subscribed | some_subscription := (Valid.step valid).subscribes_cases subscribes
  · exact before subscribed
  · exact some_subscription

/-- A key that is read from the cache, and for which a transport is opened, is used in a request if
there is something to request. -/
lemma Course.requests_of_reopens (run : Course cfg a ds c) (forced : a.Forced)
    (reopens : Reopens key ds) (some_subscription : cfg.subscriptions ≠ []) :
    ∃ d ∈ ds, Requests key d := by
  obtain ⟨u, r, o, v, rfl, cached, opens⟩ := reopens
  obtain ⟨m, before, onwards⟩ := Client.Course.split run
  have forced' : m.Forced :=
    Client.Course.preserves before (fun d _ valid => (Valid.step valid).forced) forced
  obtain ⟨rfl, validR, onwards⟩ := Client.Course.head onwards
  obtain ⟨stood, validO, -⟩ := Client.Course.head onwards
  -- `r` reads the key, so that `o` is what its attempt meets when it opens a transport
  obtain ⟨retry, opening⟩ := (Valid.step validR).of_cached forced' cached
  have st := Valid.step validO
  dsimp only at opening
  rw [stood, opening] at st
  obtain ⟨s, rest, subscriptions⟩ := List.exists_cons_of_ne_nil some_subscription
  obtain ⟨-, first⟩ | ⟨unopened, -⟩ := st.of_opening
  · obtain ⟨t, sends⟩ := first s rest subscriptions
    exact ⟨o, by simp, t, s, sends⟩
  · cases opens.symm.trans unopened

/-- What the cache may hold after some deeds is what later reads may give. -/
lemma truthful_append :
    truthful held (xs ++ ys) = (truthful held xs && truthful (xs.foldl contents held) ys) := by
  induction xs generalizing held with
  | nil => rfl
  | cons d xs ih => simp [truthful, ih, Bool.and_assoc]

/-- The reads after a deed are truthful about what the deed left in the cache. -/
lemma truthful_of_append (truth : truthful held (xs ++ d :: ys) = true) :
    truthful (contents (xs.foldl contents held) d) ys = true := by
  rw [truthful_append, Bool.and_eq_true, truthful, Bool.and_eq_true] at truth
  exact truth.2.2

/-- A deed leaves in the cache what it held, or a key that was pending. -/
lemma mem_contents {raw : String} (mem : raw ∈ contents held d) :
    raw ∈ held ∨ ∃ k, d.stood.pending = some k ∧ raw = k.text := by
  unfold contents at mem
  split at mem
  · rename_i k now pending met
    exact .inr ⟨k, pending, List.mem_singleton.1 mem⟩
  · rename_i k e now pending met
    obtain rfl | before := List.mem_cons.1 mem
    · exact .inr ⟨k, pending, rfl⟩
    · exact .inl before
  · exact .inl mem

/-- A key that is neither issued nor at hand nor in the cache is not read back. -/
lemma Course.not_cached (run : Course cfg a ds c) (unissued : ∀ d ∈ ds, d.met.issued? ≠ some key)
    (clear : Clear key a) (truth : truthful held ds = true)
    (absent : ∀ raw ∈ held, ApprovalKey.parse? raw ≠ some key) :
    ∀ d ∈ ds, d.met.cached? ≠ some key := by
  -- from the first deed on, as `truthful` follows what the cache may hold
  induction ds generalizing a held with
  | nil => exact fun d mem => absurd mem List.not_mem_nil
  | cons d ds ih =>
    obtain ⟨rfl, valid, rest⟩ := Client.Course.head run
    rw [truthful, Bool.and_eq_true] at truth
    obtain ⟨now, later⟩ := truth
    have clear' : Clear key d.goes := Valid.clear valid (unissued d (by simp)) clear
    have absent' : ∀ raw ∈ contents held d, ApprovalKey.parse? raw ≠ some key := by
      intro raw mem
      obtain before | ⟨k, pending, rfl⟩ := mem_contents mem
      · exact absent raw before
      · rw [ApprovalKey.parse?_text, ← pending]
        exact clear.pending
    intro x mem
    obtain rfl | mem := List.mem_cons.1 mem
    · intro cached
      obtain ⟨raw, moment, met, parsed⟩ := Happening.eq_of_cached? cached
      have mem : raw ∈ held := by simpa [met, read?] using now
      exact absent raw mem parsed
    · exact ih rest (fun d mem => unissued d (by simp [mem])) clear' later absent' x mem

/-- Once another key was written to the cache, a key that is not issued is neither read back nor
used again. -/
lemma Course.not_cached_of_stores {w : Deed Connect} {k : ApprovalKey}
    (run : Course cfg a (xs ++ w :: ys) c)
    (unissued : ∀ d ∈ xs ++ w :: ys, d.met.issued? ≠ some key) (clear : Clear key a)
    (truth : truthful held (xs ++ w :: ys) = true) (stores : Stores k w) :
    ∀ d ∈ ys, d.met.cached? ≠ some key ∧ ¬Requests key d := by
  obtain ⟨m, reached, onwards⟩ := Client.Course.split run
  obtain ⟨rfl, valid, rest⟩ := Client.Course.head onwards
  obtain ⟨pending, now, met⟩ := stores
  have before : Clear key w.stood :=
    Course.clear reached (fun d mem => unissued d (by simp [mem])) clear
  have after : Clear key w.goes := Valid.clear valid (unissued w (by simp)) before
  have unissued' : ∀ d ∈ ys, d.met.issued? ≠ some key := fun d mem => unissued d (by simp [mem])
  have other : k ≠ key := by
    intro same
    exact before.pending (same ▸ pending)
  -- the write leaves nothing of what the cache held
  have holds : contents (xs.foldl contents held) w = [k.text] := by
    simp only [contents, pending, met]
  have later : truthful [k.text] ys = true := holds ▸ truthful_of_append truth
  have absent : ∀ raw ∈ [k.text], ApprovalKey.parse? raw ≠ some key := by
    intro raw mem
    cases List.mem_singleton.1 mem
    rw [ApprovalKey.parse?_text]
    exact fun same => other (Option.some_inj.1 same)
  have unread := Course.not_cached rest unissued' after later absent
  have unused : w.goes.inUse ≠ some key := by
    intro inUse
    obtain inUse | pending' | ⟨cached, -⟩ := (Valid.step valid).inUse_cases inUse
    · cases (inUse_of_pending pending).symm.trans inUse
    · exact before.pending pending'
    · rw [met] at cached
      cases cached
  intro d mem
  refine ⟨unread d mem, ?_⟩
  intro requests
  obtain ⟨u, r, o, v, rfl, cached, -⟩ :=
    (Course.reopens rest unissued' after unused).2 d mem requests
  exact unread r (by simp) cached

end

/-- When the server has rejected the key of an attempt, and the issuer does not issue that key again
and nobody else writes to the cache, a later attempt of the call makes a request with the rejected
key exactly when the key is read back from the cache and a transport is opened for it. Once any key
has been written to the cache since the rejection, neither happens again; and a key that was issued
since then is used first, so that no request with the rejected key comes before the end of an
attempt with the new one. -/
theorem rejected_key_reused_iff {cfg : Config} {key : ApprovalKey} {c : Connect}
    {before after : List (Deed Connect)} {d : Deed Connect} {held : List String}
    (run : Course cfg (start cfg) (before ++ d :: after) c) (rejects : Rejects cfg key d)
    (unissued : ∀ x ∈ after, x.met.issued? ≠ some key)
    (truth : truthful held (before ++ d :: after) = true) :
    ((∃ x ∈ after, Requests key x) ↔ Reopens key after) ∧
      (∀ u w v k, after = u ++ w :: v → Stores k w →
        ∀ x ∈ v, x.met.cached? ≠ some key ∧ ¬Requests key x) ∧
      ∀ u w v x v' k, after = u ++ w :: (v ++ x :: v') → w.goes.pending = some k →
        Requests key x → ∃ y ∈ v, Ends k y := by
  obtain ⟨m, reached, onwards⟩ := Client.Course.split run
  obtain ⟨rfl, valid, rest⟩ := Client.Course.head onwards
  obtain ⟨retry, h, cause, stood, rfl, goes, code⟩ := rejects
  have later : truthful (contents (before.foldl contents held) d) after = true :=
    truthful_of_append truth
  -- the attempt is closing its transport, and has let go of the key
  have clear : Clear h.key d.goes := by
    rw [goes]
    exact ⟨trivial, nofun⟩
  have unused : d.goes.inUse ≠ some h.key := by
    rw [goes]
    exact nofun
  have some_subscription : cfg.subscriptions ≠ [] :=
    Course.subscriptions_ne_nil reached (stood ▸ trivial)
  refine ⟨⟨?_, ?_⟩, ?_, ?_⟩
  · rintro ⟨x, mem, requests⟩
    exact (Course.reopens rest unissued clear unused).2 x mem requests
  · intro reopens
    exact Course.requests_of_reopens rest clear.forced reopens some_subscription
  · rintro u w v k rfl stores
    exact Course.not_cached_of_stores rest unissued clear later stores
  · rintro u w v x v' k rfl pending requests
    obtain ⟨m', reached', onwards'⟩ := Client.Course.split rest
    obtain ⟨rfl, valid', rest'⟩ := Client.Course.head onwards'
    have clear' : Clear h.key w.stood :=
      Course.clear reached' (fun d mem => unissued d (by simp [mem])) clear
    have other : k ≠ h.key := by
      rintro rfl
      exact (Valid.clear valid' (unissued w (by simp)) clear').pending pending
    exact Course.ends_of_requests rest' (.pending pending) other requests

/-- What the call of the sample subscribes to. -/
def sampleSubscription : Subscription := ⟨.domesticFills, "H0STCNI9", "user"⟩

/-- The configuration of the sample. -/
def sampleConfig : Config := Config.of "ws://feed" [sampleSubscription]

/-- The key that the server of the sample rejects. -/
def sampleOld : ApprovalKey := ⟨"old", by rfl, by decide⟩

/-- The key that is issued in its place. -/
def sampleNew : ApprovalKey := ⟨"new", by rfl, by decide⟩

/-- The ack that rejects the key. -/
def sampleAck : String :=
  "\x7b\"header\":\x7b\"tr_id\":\"H0STCNI9\"\x7d," ++
    "\"body\":\x7b\"rt_cd\":\"1\",\"msg_cd\":\"OPSP0011\"\x7d\x7d"

/-- The shortest pause before another attempt. -/
def sampleDraw : Retry.Draw := ⟨0, Nat.succ_pos _⟩

/-- The call of the sample up to its first request, with the key from the cache. -/
def sampleBefore : List (Deed Connect) × Connect :=
  replay (deed? sampleConfig) Shared.initial (start sampleConfig)
    [.proceed, .proceed, .proceed, .reply (.cacheRead (.ok (some "old"))) ⟨0⟩,
      .reply (.opened (.ok ())) ⟨1⟩, .reply (.sent (.ok ())) ⟨2⟩]

/-- The rejection of the key. -/
def sampleRejection : Deed Connect where
  found := Shared.initial
  stood := .attempting (Retry.start sampleConfig.retry)
    (.acking ⟨sampleOld, 1, Codec.ofSubscriptions [sampleSubscription], sampleSubscription, []⟩)
  met := .reply (.received (.ok (some (.text sampleAck)))) ⟨3⟩
  left := Shared.initial
  goes := .attempting (Retry.start sampleConfig.retry)
    (.abandoning 1 (.rejected ⟨"H0STCNI9", "1", "OPSP0011", ""⟩))
  did := [.took 1 (.text sampleAck), .began (.close 1)]

/-- The call of the sample from then on: the new key cannot be written to the cache, no transport
can be opened for it, and the third attempt finds the rejected key in the cache. -/
def sampleAfter : List (Deed Connect) × Connect :=
  replay (deed? sampleConfig) Shared.initial sampleRejection.goes
    [.reply (.closed (.ok ())) ⟨4⟩, .reply (.keyIssued (.ok sampleNew)) ⟨5⟩,
      .reply (.cacheWritten (.error (.command "full"))) ⟨6⟩, .drawn sampleDraw, .elapsed,
      .proceed, .proceed, .proceed, .reply (.opened (.error (.connect "refused"))) ⟨7⟩,
      .drawn sampleDraw, .elapsed, .proceed, .proceed, .proceed,
      .reply (.cacheRead (.ok (some "old"))) ⟨8⟩, .reply (.opened (.ok ())) ⟨9⟩]

/-- The call of the sample makes a request with the key that was rejected, although a new one has
been issued in its place. -/
theorem sampleAfter_reuses :
    Course sampleConfig (start sampleConfig)
        (sampleBefore.1 ++ sampleRejection :: sampleAfter.1) sampleAfter.2 ∧
      Rejects sampleConfig sampleOld sampleRejection ∧
      (∀ x ∈ sampleAfter.1, x.met.issued? ≠ some sampleOld) ∧
      truthful ["old"] (sampleBefore.1 ++ sampleRejection :: sampleAfter.1) = true ∧
      (∃ x ∈ sampleAfter.1, x.goes.pending = some sampleNew) ∧
      ∃ x ∈ sampleAfter.1, Requests sampleOld x := by
  have before : Course sampleConfig (start sampleConfig) sampleBefore.1 sampleBefore.2 :=
    .of_replay (fun _ _ _ _ => valid_of_deed?) _ _ _
  have after : Course sampleConfig sampleRejection.goes sampleAfter.1 sampleAfter.2 :=
    .of_replay (fun _ _ _ _ => valid_of_deed?) _ _ _
  have invalid : Ack.validate "H0STCNI9" sampleAck = .error ⟨"H0STCNI9", "1", "OPSP0011", ""⟩ := by
    cbv
  have rejection : Valid sampleConfig sampleRejection :=
    advance_iff.2 (.attempting (.rejected rfl invalid))
  have run : Course sampleConfig (start sampleConfig)
      (sampleBefore.1 ++ sampleRejection :: sampleAfter.1) sampleAfter.2 :=
    Client.Course.append before (Client.Course.cons rejection after)
  have rejects : Rejects sampleConfig sampleOld sampleRejection :=
    ⟨_, _, _, rfl, rfl, rfl, by rfl⟩
  have issued : sampleAfter.1.filterMap (fun d => d.met.issued?) = [sampleNew] := by rfl
  have unissued : ∀ x ∈ sampleAfter.1, x.met.issued? ≠ some sampleOld := by
    intro x mem same
    have listed : sampleOld ∈ sampleAfter.1.filterMap (fun d => d.met.issued?) :=
      List.mem_filterMap.2 ⟨x, mem, same⟩
    rw [issued, List.mem_singleton] at listed
    exact absurd (congrArg ApprovalKey.text listed) (by decide)
  have truth : truthful ["old"] (sampleBefore.1 ++ sampleRejection :: sampleAfter.1) = true := by
    rfl
  have reopens : Reopens sampleOld sampleAfter.1 :=
    ⟨sampleAfter.1.take 14, _, _, [], by rfl, by rfl, by rfl⟩
  refine ⟨run, rejects, unissued, truth, ?_, ?_⟩
  · exact ⟨_, List.mem_of_getElem (i := 2) (h := by decide) rfl, by rfl⟩
  · exact (rejected_key_reused_iff run rejects unissued truth).1.2 reopens

end FillFeed.Client.Connect
