import Mathlib
import FillFeed.Handshake.Rejection
import FillFeed.Proofs.Json.Members

/-!
# Decryption material in rejections

An ack brings the key and the initial vector of its stream. `Ack.masked` is the value of an ack with
both of them masked, so that two acks with the same masked value differ in their material alone.
`Ack.validate_masked` says what becomes of this difference when one of them is rejected: a text that
can be read as an ack is rejected for reasons that do not depend on the material, and a text that
cannot be read stands in its rejection as it is, material included.
-/

namespace FillFeed

/-- A text of the same length in bytes that tells nothing else. -/
def maskText (s : String) : String := String.ofList (List.replicate (Utf8.encode s).length 'x')

/-- A string masked. -/
def Json.mask : Json → Json
  | .string s => .string (maskText s)
  | v => v

/-- A change of the member with the given name, and of no other. -/
def Json.within (name : String) (f : Json → Json) (other : String) (v : Json) : Json :=
  if other = name then f v else v

/-- A text is encoded in as many bytes as its size tells. -/
lemma length_encode (s : String) : (Utf8.encode s).length = s.utf8ByteSize := by
  rw [Utf8.encode, Array.length_toList]
  rfl

/-- A masked text has as many bytes as the text. -/
lemma length_encode_maskText (s : String) :
    (Utf8.encode (maskText s)).length = (Utf8.encode s).length := by
  rw [length_encode, maskText, String.utf8ByteSize_ofList]
  generalize (Utf8.encode s).length = n
  induction n with
  | zero => rfl
  | succ n ih =>
    rw [List.replicate_succ, String.utf8Len_cons, ih]
    rfl

/-- Only the empty text is empty once it is masked. -/
lemma maskText_eq_empty_iff {s : String} : maskText s = "" ↔ s = "" := by
  rw [← String.utf8ByteSize_eq_zero_iff, ← length_encode, length_encode_maskText, length_encode,
    String.utf8ByteSize_eq_zero_iff]

/-- The member that is named is changed. -/
lemma Json.within_self (name : String) (f : Json → Json) : within name f name = f :=
  funext fun _ => if_pos rfl

/-- A member of another name stays as it is. -/
lemma Json.within_of_ne {name other : String} (apart : other ≠ name) (f : Json → Json) :
    within name f other = id :=
  funext fun _ => if_neg apart

namespace Ack

/-- The value of the decryption material with its two strings masked. -/
def maskOutput : Json → Json :=
  Json.mapMembers fun name v => if name = "key" ∨ name = "iv" then v.mask else v

/-- The value of a body with the strings at `output.key` and `output.iv` masked. -/
def maskBody : Json → Json := Json.mapMembers (Json.within "output" maskOutput)

/-- The value of an ack with the strings at `body.output.key` and `body.output.iv` masked. -/
def maskValue : Json → Json := Json.mapMembers (Json.within "body" maskBody)

/-- The decryption material masked. -/
def Output.masked (o : Output) : Output := ⟨o.key.map maskText, o.iv.map maskText⟩

/-- The four parts of a body with the decryption material masked. -/
def maskedParts :
    String × String × String × Option Output → String × String × String × Option Output
  | (status, code, text, output) => (status, code, text, output.map Output.masked)

/-- An ack with its decryption material masked. -/
def masked (a : Ack) : Ack := { a with output := a.output.map Output.masked }

section

open Json.Tree (Agree)

variable {t t' : Json.Tree}

/-- A text is the same in trees that agree up to masking, once it is masked. -/
lemma string?_of_mask (agree : Agree Json.mask t t') :
    t.string?.map maskText = t'.string?.map maskText := by
  obtain ⟨v, v', encodes, encodes', same⟩ := agree
  have seen (v : Json) : v.string?.map maskText = v.mask.string? := by cases v <;> rfl
  rw [encodes.string?_eq, encodes'.string?_eq, seen, seen, same]

/-- The material of trees that agree up to masking is the same, once it is masked. -/
lemma Output.ofTree?_congr (agree : Agree maskOutput t t') :
    (Output.ofTree? t).map Output.masked = (Output.ofTree? t').map Output.masked := by
  unfold Output.ofTree?
  obtain ⟨e, e'⟩ | ⟨r, r', e, e', fields⟩ := agree.record?_cases ["key", "iv"]
  · rw [e, e']
  · have field (name : String) (secret : name = "key" ∨ name = "iv") :
        (r.orElse name none (Json.Tree.nullable Json.Tree.string?)).map (Option.map maskText) =
          (r'.orElse name none (Json.Tree.nullable Json.Tree.string?)).map
            (Option.map maskText) := by
      have agree : Option.Rel (Agree Json.mask) (r.given.lookup name) (r'.given.lookup name) := by
        simpa only [if_pos secret] using fields name
      refine Agree.orElse agree fun t t' agree => agree.nullable ?_ (string?_of_mask agree)
      rintro v v' same rfl
      cases v' with
      | null => rfl
      | _ => cases same
    have whole (k i : Option (Option String)) :
        (do let key ← k; let iv ← i; some (⟨key, iv⟩ : Output)).map Output.masked =
          (k.map (Option.map maskText)).bind fun key =>
            (i.map (Option.map maskText)).map fun iv => ⟨key, iv⟩ := by
      cases k <;> cases i <;> rfl
    rw [e, e']
    refine (whole _ _).trans (Eq.trans ?_ (whole _ _).symm)
    rw [field "key" (.inl rfl), field "iv" (.inr rfl)]

/-- The headers of trees that encode the same value are the same. -/
lemma headerOfTree?_congr (agree : Agree id t t') : headerOfTree? t = headerOfTree? t' := by
  have members : Agree (Json.mapMembers fun _ v => v) t t' := agree.of_id
  unfold headerOfTree?
  obtain ⟨e, e'⟩ | ⟨r, r', e, e', fields⟩ := members.record?_cases ["tr_id", "tr_key", "encrypt"]
  · rw [e, e']
  · have texts (name : String) : r.orElse name "" Json.Tree.string? =
        r'.orElse name "" Json.Tree.string? :=
      Agree.orElse_of_id (fields name) fun _ _ => Agree.string?
    have options (name : String) : r.orElse name none (Json.Tree.nullable Json.Tree.string?) =
        r'.orElse name none (Json.Tree.nullable Json.Tree.string?) :=
      Agree.orElse_of_id (fields name) fun _ _ agree => agree.nullable_of_id agree.string?
    rw [e, e']
    simp only [Option.bind_eq_bind, Option.bind_some, texts, options]

/-- The bodies of trees that agree up to masking are the same, once the material is masked. -/
lemma bodyOfTree?_congr (agree : Agree maskBody t t') :
    (bodyOfTree? t).map maskedParts = (bodyOfTree? t').map maskedParts := by
  unfold bodyOfTree?
  obtain ⟨e, e'⟩ | ⟨r, r', e, e', fields⟩ :=
    agree.record?_cases ["rt_cd", "msg_cd", "msg1", "output"]
  · rw [e, e']
  · have texts (name : String) (apart : name ≠ "output") :
        r.orElse name "" Json.Tree.string? = r'.orElse name "" Json.Tree.string? := by
      refine Agree.orElse_of_id ?_ fun _ _ => Agree.string?
      rw [← Json.within_of_ne apart maskOutput]
      exact fields name
    have output : (r.orElse "output" none (Json.Tree.nullable Output.ofTree?)).map
          (Option.map Output.masked) =
        (r'.orElse "output" none (Json.Tree.nullable Output.ofTree?)).map
          (Option.map Output.masked) := by
      have agree : Option.Rel (Agree maskOutput) (r.given.lookup "output")
          (r'.given.lookup "output") := by
        rw [← Json.within_self "output" maskOutput]
        exact fields "output"
      refine Agree.orElse agree fun t t' agree => agree.nullable ?_ (Output.ofTree?_congr agree)
      rintro v v' same rfl
      cases v' with
      | null => rfl
      | _ => cases same
    -- the material is read last, so that it can be masked after the other parts are there
    have whole (s c m : Option String) (o : Option (Option Output)) :
        (do let status ← s; let code ← c; let text ← m; let output ← o
            some (status, code, text, output)).map maskedParts =
          s.bind fun s => c.bind fun c => m.bind fun m =>
            (o.map (Option.map Output.masked)).map fun o => (s, c, m, o) := by
      cases s <;> cases c <;> cases m <;> cases o <;> rfl
    rw [e, e']
    refine (whole _ _ _ _).trans (Eq.trans ?_ (whole _ _ _ _).symm)
    rw [texts "rt_cd" (by decide), texts "msg_cd" (by decide), texts "msg1" (by decide), output]

/-- The acks of trees that agree up to masking are the same, once the material is masked. -/
lemma ofTree?_congr (agree : Agree maskValue t t') :
    (ofTree? t).map masked = (ofTree? t').map masked := by
  unfold ofTree?
  obtain ⟨e, e'⟩ | ⟨r, r', e, e', fields⟩ := agree.record?_cases ["header", "body"]
  · rw [e, e']
  · have header : r.orElse "header" ("", none, none) headerOfTree? =
        r'.orElse "header" ("", none, none) headerOfTree? := by
      refine Agree.orElse_of_id ?_ fun _ _ => headerOfTree?_congr
      rw [← Json.within_of_ne (by decide : "header" ≠ "body") maskBody]
      exact fields "header"
    have body : (r.orElse "body" ("", "", "", none) bodyOfTree?).map maskedParts =
        (r'.orElse "body" ("", "", "", none) bodyOfTree?).map maskedParts := by
      have agree : Option.Rel (Agree maskBody) (r.given.lookup "body")
          (r'.given.lookup "body") := by
        rw [← Json.within_self "body" maskBody]
        exact fields "body"
      exact Agree.orElse agree fun _ _ => bodyOfTree?_congr
    have whole (h : Option (String × Option String × Option String))
        (b : Option (String × String × String × Option Output)) :
        (do let h ← h
            let b ← b
            some (⟨h.1, h.2.1, h.2.2, b.1, b.2.1, b.2.2.1, b.2.2.2⟩ : Ack)).map masked =
          h.bind fun h => (b.map maskedParts).map fun b =>
            ⟨h.1, h.2.1, h.2.2, b.1, b.2.1, b.2.2.1, b.2.2.2⟩ := by
      cases h <;> cases b <;> rfl
    rw [e, e']
    refine (whole _ _).trans (Eq.trans ?_ (whole _ _).symm)
    rw [header, body]

/-- Acks whose values agree up to masking are the same, once the material is masked. -/
lemma read?_congr {raw raw' : String} {v v' : Json} (encodes : Json.Encodes raw v)
    (encodes' : Json.Encodes raw' v') (same : maskValue v = maskValue v') :
    (read? raw).map masked = (read? raw').map masked := by
  obtain ⟨t, read, tree⟩ := encodes
  obtain ⟨t', read', tree'⟩ := encodes'
  rw [read?, read?, read, read', Option.bind_some, Option.bind_some]
  exact ofTree?_congr ⟨v, v', tree, tree', same⟩

end

/-- Whether material makes a context, and why not, is told once it is masked. -/
lemma ofTexts_mask_cases (key iv : String) :
    (∃ c c', Cipher.Context.ofTexts key iv = .ok c ∧
        Cipher.Context.ofTexts (maskText key) (maskText iv) = .ok c') ∨
      ∃ e, Cipher.Context.ofTexts key iv = .error e ∧
        Cipher.Context.ofTexts (maskText key) (maskText iv) = .error e := by
  unfold Cipher.Context.ofTexts Cipher.Context.ofBytes
  simp only [length_encode_maskText]
  split
  · exact .inl ⟨_, _, rfl, rfl⟩
  · exact .inr ⟨_, rfl, rfl⟩

/-- Masking keeps whether there is a key and an initial vector. -/
lemma keyIv?_masked (a : Ack) :
    a.masked.keyIv? = a.keyIv?.map fun m => (maskText m.1, maskText m.2) := by
  obtain ⟨streamId, subscriberKey, encrypted, status, code, text, output⟩ := a
  obtain _ | ⟨_ | key, _ | iv⟩ := output
  · rfl
  · rfl
  · rfl
  · rfl
  · simp only [keyIv?, masked, Output.masked, Option.map_some, Option.bind_eq_bind,
      Option.bind_some, maskText_eq_empty_iff]
    split <;> rfl

/-- Why an ack is rejected does not depend on its decryption material. -/
lemma check_masked (a : Ack) (streamId : String) (r : Rejection) :
    a.masked.check streamId = .error r ↔ a.check streamId = .error r := by
  unfold check
  dsimp only
  by_cases other : Text.trim a.streamId ≠ streamId
  · rw [if_pos other, if_pos (show Text.trim a.masked.streamId ≠ streamId from other)]
    exact Iff.rfl
  by_cases failed : a.isSuccess = false
  · rw [if_neg other, if_neg (show ¬Text.trim a.masked.streamId ≠ streamId from other),
      if_pos failed, if_pos (show a.masked.isSuccess = false from failed)]
    exact Iff.rfl
  rw [if_neg other, if_neg (show ¬Text.trim a.masked.streamId ≠ streamId from other),
    if_neg failed, if_neg (show ¬a.masked.isSuccess = false from failed), keyIv?_masked]
  cases a.keyIv? with
  | none => exact Iff.rfl
  | some m =>
    obtain ⟨c, c', e, e'⟩ | ⟨cause, e, e'⟩ := ofTexts_mask_cases m.1 m.2
    · simp only [Option.map_some, e, e']
      exact iff_of_false (fun h => nomatch h) (fun h => nomatch h)
    · simp only [Option.map_some, e, e']
      exact Iff.rfl

/-- Two texts that encode acks with the same values, apart from the strings at `body.output.key` and
`body.output.iv` and with equal lengths of these, are both rejected or both accepted. The rejections
are equal, and worded in the same way, exactly when the texts can be read as acks or are the same
text. A text that encodes a value and cannot be read as an ack, since some other part of it has the
wrong form, is repeated in its rejection with all its material. -/
theorem validate_masked {streamId raw raw' : String} {v v' : Json} {r : Rejection}
    (encodes : Json.Encodes raw v) (encodes' : Json.Encodes raw' v')
    (same : maskValue v = maskValue v') (rejected : validate streamId raw = .error r) :
    ∃ r', validate streamId raw' = .error r' ∧
      (r' = r ↔ (read? raw).isSome = true ∨ raw' = raw) ∧
      (r'.message = r.message ↔ (read? raw).isSome = true ∨ raw' = raw) ∧
      (read? raw = none → r.text = "unparseable ack: " ++ raw) := by
  have acks := read?_congr encodes encodes' same
  unfold validate at rejected ⊢
  cases read : read? raw with
  | some a =>
    rw [read] at acks rejected
    obtain ⟨a', read', masks⟩ := Option.map_eq_some_iff.1 acks.symm
    have rejected' : a'.check streamId = .error r := by
      rw [← check_masked, masks, check_masked]
      exact rejected
    rw [read']
    exact ⟨r, rejected', by simp, by simp, nofun⟩
  | none =>
    rw [read] at acks rejected
    have unread : read? raw' = none := Option.map_eq_none_iff.1 acks.symm
    cases rejected
    rw [unread]
    -- a text that cannot be read is repeated, so that two of them are told apart
    have told : "unparseable ack: " ++ raw' = "unparseable ack: " ++ raw ↔
        (none : Option Ack).isSome = true ∨ raw' = raw := by
      rw [String.append_right_inj]
      simp
    refine ⟨_, rfl, ?_, ?_, fun _ => rfl⟩
    · rw [← told]
      exact ⟨congrArg Rejection.text, congrArg (Rejection.mk streamId "" "")⟩
    · rw [← told]
      exact String.append_right_inj _

/-- An ack with no text for its status. -/
def sampleText : String :=
  "\x7b\"body\":\x7b\"rt_cd\":null,\"output\":\x7b\"key\":\"k1\",\"iv\":\"v1\"\x7d\x7d\x7d"

/-- The same ack with other material. -/
def sampleOther : String :=
  "\x7b\"body\":\x7b\"rt_cd\":null,\"output\":\x7b\"key\":\"k2\",\"iv\":\"v2\"\x7d\x7d\x7d"

/-- The value of the sample, whatever its material is. -/
def sampleValue (key iv : String) : Json :=
  .object [("body", .object
    [("output", .object [("iv", .string iv), ("key", .string key)]), ("rt_cd", .null)])]

/-- The missing text keeps both samples from being read as acks, so that they are rejected in
different words, which tell the material of each. -/
theorem sampleText_told :
    Json.Encodes sampleText (sampleValue "k1" "v1") ∧
      Json.Encodes sampleOther (sampleValue "k2" "v2") ∧
      maskValue (sampleValue "k1" "v1") = maskValue (sampleValue "k2" "v2") ∧
      ∃ r r', validate "H0STCNI9" sampleText = .error r ∧
        validate "H0STCNI9" sampleOther = .error r' ∧ r'.message ≠ r.message ∧
        r.text = "unparseable ack: " ++ sampleText := by
  have value (key iv : String) : Json.Tree.Encodes (.object [(some "body", .object
      [(some "rt_cd", .null), (some "output", .object
        [(some "key", .string (some key)), (some "iv", .string (some iv))])])])
      (sampleValue key iv) := ⟨3, by rfl, by cbv⟩
  have encodes : Json.Encodes sampleText (sampleValue "k1" "v1") := by
    refine ⟨_, ?_, value "k1" "v1"⟩
    cbv
  have encodes' : Json.Encodes sampleOther (sampleValue "k2" "v2") := by
    refine ⟨_, ?_, value "k2" "v2"⟩
    cbv
  have same : maskValue (sampleValue "k1" "v1") = maskValue (sampleValue "k2" "v2") := by cbv
  have unread : read? sampleText = none := by cbv
  have rejected : validate "H0STCNI9" sampleText =
      .error (.unparseable "H0STCNI9" sampleText) := by
    rw [validate, unread]
  obtain ⟨r', rejected', -, told, repeated⟩ := validate_masked encodes encodes' same rejected
  refine ⟨encodes, encodes', same, _, r', rejected, rejected', ?_, repeated unread⟩
  rw [Ne, told, unread]
  simp [sampleText, sampleOther]

end Ack

end FillFeed
