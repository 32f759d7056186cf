import Mathlib
import FillFeed.Handshake.Rejection
import FillFeed.Proofs.Handshake.Wire

/-!
# Verdicts on acks

An ack `Confirms` a subscription when it is for its stream, reports success and brings material of
the right lengths; otherwise it `Refuses` with the text of the first of these that fails. The two
exclude each other and one of them holds (`refuses_iff`). `validate_verdicts` says that the check of
a text decides between them, which codes its rejections carry, and so which texts can call for a new
approval key.
-/

namespace FillFeed

open Text

/-- A rejection has one of some codes if its own one, without the blanks around it, is not empty and
among them. -/
lemma Rejection.hasCode_iff {r : Rejection} {codes : List String} :
    r.hasCode codes = true ↔ trim r.code ≠ "" ∧ trim r.code ∈ codes := by
  simp [hasCode]

namespace Cipher.Context

variable {key iv : String} {c : Context}

/-- Two texts make a context if and only if both have a length in bytes that is allowed, and then it
consists of their bytes. -/
lemma ofTexts_eq_ok_iff : ofTexts key iv = .ok c ↔
    ((Utf8.encode key).length ∈ keyLengths ∧ (Utf8.encode iv).length = 16) ∧
      c.key = Utf8.encode key ∧ c.iv = Utf8.encode iv := by
  unfold ofTexts ofBytes
  split
  · rename_i sized
    obtain ⟨k, v, _, _⟩ := c
    simp [sized, eq_comm]
  · rename_i illSized
    simp [illSized]

/-- Two texts are refused if and only if one of them has another length, and both lengths are told.
-/
lemma ofTexts_eq_error_iff {e : Error} : ofTexts key iv = .error e ↔
    ¬((Utf8.encode key).length ∈ keyLengths ∧ (Utf8.encode iv).length = 16) ∧
      e = .invalidLength (Utf8.encode key).length (Utf8.encode iv).length := by
  unfold ofTexts ofBytes
  split
  · rename_i sized
    simp [sized]
  · rename_i illSized
    rw [Except.error.injEq, eq_comm, and_iff_right illSized]

end Cipher.Context

namespace Ack

/-- An ack confirms the subscription to a stream and brings its key and initial vector. -/
structure Confirms (a : Ack) (streamId key iv : String) : Prop where
  stream : trim a.streamId = streamId
  status : trim a.status = "0"
  output : a.output = some ⟨some key, some iv⟩
  key_length : (Utf8.encode key).length = 16 ∨ (Utf8.encode key).length = 24 ∨
    (Utf8.encode key).length = 32
  iv_length : (Utf8.encode iv).length = 16

/-- An ack does not confirm the subscription to a stream, for a reason that is told in some words:
the first of the conditions that it does not meet. -/
inductive Refuses (a : Ack) (streamId : String) : String → Prop where
  | elsewhere (other : trim a.streamId ≠ streamId) :
    Refuses a streamId ("ack for unexpected stream " ++ quote a.streamId)
  | failed (stream : trim a.streamId = streamId) (status : trim a.status ≠ "0") :
    Refuses a streamId a.text
  | bare (stream : trim a.streamId = streamId) (status : trim a.status = "0")
      (missing : ∀ key iv, a.output = some ⟨some key, some iv⟩ → key = "" ∨ iv = "") :
    Refuses a streamId "ack carries no key/iv"
  | illSized {key iv} (stream : trim a.streamId = streamId) (status : trim a.status = "0")
      (output : a.output = some ⟨some key, some iv⟩) (given : key ≠ "" ∧ iv ≠ "")
      (length : ¬((Utf8.encode key).length ∈ Cipher.keyLengths ∧ (Utf8.encode iv).length = 16)) :
    Refuses a streamId
      ("invalid key/iv length (key " ++ decimalNat (Utf8.encode key).length ++ ", iv " ++
        decimalNat (Utf8.encode iv).length ++ ")")

section

variable {a : Ack} {streamId key iv text raw : String} {r : Rejection} {c : Cipher.Context}

/-- An ack brings a key and an initial vector if and only if its material has both and neither is
empty. -/
lemma keyIv?_eq_some_iff :
    a.keyIv? = some (key, iv) ↔ a.output = some ⟨some key, some iv⟩ ∧ key ≠ "" ∧ iv ≠ "" := by
  rcases output : a.output with _ | ⟨_ | k, _ | v⟩
  case some.some.some =>
    simp only [keyIv?, output, Option.bind_eq_bind, Option.bind_some]
    split
    · rename_i empty
      simp only [reduceCtorEq, Option.some.injEq, Output.mk.injEq, false_iff]
      rintro ⟨⟨rfl, rfl⟩, filled, filled'⟩
      exact empty.elim filled filled'
    · rename_i filled
      rw [not_or] at filled
      simp only [Option.some.injEq, Prod.mk.injEq, Output.mk.injEq]
      constructor
      · rintro ⟨rfl, rfl⟩
        exact ⟨⟨rfl, rfl⟩, filled⟩
      · exact And.left
  all_goals simp [keyIv?, output]

/-- An ack does not bring them if and only if one of the two is absent or empty. -/
lemma keyIv?_eq_none_iff : a.keyIv? = none ↔
    ∀ key iv, a.output = some ⟨some key, some iv⟩ → key = "" ∨ iv = "" := by
  simp only [Option.eq_none_iff_forall_ne_some, Prod.forall, ne_eq, keyIv?_eq_some_iff]
  grind

/-- A text that has the length of a key is not empty. -/
lemma Confirms.given (confirms : a.Confirms streamId key iv) : key ≠ "" ∧ iv ≠ "" := by
  constructor
  · rintro rfl
    have none : (Utf8.encode "").length = 0 := rfl
    have length := confirms.key_length
    omega
  · rintro rfl
    cases confirms.iv_length

/-- The key and the initial vector of an ack that confirms have a length in bytes that is allowed.
-/
lemma Confirms.sized (confirms : a.Confirms streamId key iv) :
    (Utf8.encode key).length ∈ Cipher.keyLengths ∧ (Utf8.encode iv).length = 16 :=
  ⟨by simpa [Cipher.keyLengths] using confirms.key_length, confirms.iv_length⟩

/-- There is a context of the key and the initial vector of an ack that confirms. -/
lemma Confirms.exists_context (confirms : a.Confirms streamId key iv) :
    ∃ c : Cipher.Context, c.key = Utf8.encode key ∧ c.iv = Utf8.encode iv :=
  ⟨⟨_, _, confirms.sized.1, confirms.sized.2⟩, rfl, rfl⟩

/-- An ack refuses exactly when it does not confirm. -/
lemma refuses_iff : (∃ text, a.Refuses streamId text) ↔ ∀ key iv, ¬a.Confirms streamId key iv := by
  constructor
  · rintro ⟨text, refuses⟩ key iv confirms
    cases refuses with
    | elsewhere other => exact other confirms.stream
    | failed _ status => exact status confirms.status
    | bare _ _ missing =>
      rcases missing key iv confirms.output with none | none
      · exact confirms.given.1 none
      · exact confirms.given.2 none
    | illSized _ _ output _ length =>
      cases output.symm.trans confirms.output
      exact length confirms.sized
  · intro unconfirmed
    -- the conditions in the order in which they are checked
    by_cases stream : trim a.streamId = streamId
    case neg => exact ⟨_, .elsewhere stream⟩
    by_cases status : trim a.status = "0"
    case neg => exact ⟨_, .failed stream status⟩
    cases material : a.keyIv? with
    | none => exact ⟨_, .bare stream status (keyIv?_eq_none_iff.1 material)⟩
    | some m =>
      obtain ⟨output, given⟩ := keyIv?_eq_some_iff.1 material
      refine ⟨_, .illSized stream status output given ?_⟩
      rintro ⟨key_length, iv_length⟩
      refine unconfirmed m.1 m.2 ⟨stream, status, output, ?_, iv_length⟩
      simpa [Cipher.keyLengths] using key_length

/-- A refusal is what the check finds. -/
lemma check_of_refuses (refuses : a.Refuses streamId text) :
    a.check streamId = .error ⟨streamId, a.status, a.code, text⟩ := by
  unfold check
  cases refuses with
  | elsewhere other => rw [if_pos other]
  | failed stream status =>
    have failure : a.isSuccess = false := beq_eq_false_iff_ne.2 status
    rw [if_neg (not_not.2 stream), if_pos failure]
  | bare stream status missing =>
    have success : a.isSuccess = true := beq_iff_eq.2 status
    rw [if_neg (not_not.2 stream), if_neg (by simp [success]), keyIv?_eq_none_iff.2 missing]
  | illSized stream status output given length =>
    have success : a.isSuccess = true := beq_iff_eq.2 status
    have sized := Cipher.Context.ofTexts_eq_error_iff.2 ⟨length, rfl⟩
    rw [if_neg (not_not.2 stream), if_neg (by simp [success]), keyIv?_eq_some_iff.2 ⟨output, given⟩]
    simp only [sized]
    rfl

/-- A confirmation gives the context of its material. -/
lemma check_of_confirms (confirms : a.Confirms streamId key iv) (keyed : c.key = Utf8.encode key)
    (vectored : c.iv = Utf8.encode iv) : a.check streamId = .ok c := by
  have success : a.isSuccess = true := beq_iff_eq.2 confirms.status
  have sized := Cipher.Context.ofTexts_eq_ok_iff.2 ⟨confirms.sized, keyed, vectored⟩
  unfold check
  rw [if_neg (not_not.2 confirms.stream), if_neg (by simp [success]),
    keyIv?_eq_some_iff.2 ⟨confirms.output, confirms.given⟩]
  simp only [sized]

/-- An ack is rejected if and only if it refuses the subscription, with the words of the first
reason and its own codes. -/
lemma check_eq_error_iff : a.check streamId = .error r ↔
    ∃ text, a.Refuses streamId text ∧ r = ⟨streamId, a.status, a.code, text⟩ := by
  constructor
  · intro rejected
    have unconfirmed : ∀ key iv, ¬a.Confirms streamId key iv := by
      intro key iv confirms
      obtain ⟨c, keyed, vectored⟩ := confirms.exists_context
      cases rejected.symm.trans (check_of_confirms confirms keyed vectored)
    obtain ⟨text, refuses⟩ := refuses_iff.2 unconfirmed
    cases rejected.symm.trans (check_of_refuses refuses)
    exact ⟨text, refuses, rfl⟩
  · rintro ⟨text, refuses, rfl⟩
    exact check_of_refuses refuses

/-- An ack is accepted if and only if it confirms the subscription, with the bytes of its key and
initial vector. -/
lemma check_eq_ok_iff : a.check streamId = .ok c ↔
    ∃ key iv, a.Confirms streamId key iv ∧ c.key = Utf8.encode key ∧ c.iv = Utf8.encode iv := by
  constructor
  · intro accepted
    have unrefused : ¬∃ text, a.Refuses streamId text := by
      rintro ⟨text, refuses⟩
      cases accepted.symm.trans (check_of_refuses refuses)
    rw [refuses_iff] at unrefused
    push Not at unrefused
    obtain ⟨key, iv, confirms⟩ := unrefused
    obtain ⟨made, keyed, vectored⟩ := confirms.exists_context
    cases accepted.symm.trans (check_of_confirms confirms keyed vectored)
    exact ⟨key, iv, confirms, keyed, vectored⟩
  · rintro ⟨key, iv, confirms, keyed, vectored⟩
    exact check_of_confirms confirms keyed vectored

/-- A text that can be read is judged by the ack in it. -/
lemma validate_of_read? (read : read? raw = some a) : validate streamId raw = a.check streamId := by
  rw [validate, read]

/-- A text that cannot be read is rejected as it stands. -/
lemma validate_of_unread (unread : read? raw = none) :
    validate streamId raw = .error (.unparseable streamId raw) := by
  rw [validate, unread]

end

/-- A text is accepted for a stream exactly when it holds an ack that confirms the subscription, and
the context has the bytes of the key and the initial vector in it. Any other text is rejected for
this stream. If it holds an ack, then in the words for the first condition that the ack does not
meet and with both of its codes as they stand, whatever this condition is; and without codes if it
holds none. So the rejection has one of some codes exactly when the text holds an ack that does not
confirm and whose message code, without the blanks around it, is not empty and one of these. Every
ack is held by some text. -/
theorem validate_verdicts (streamId raw : String) :
    (∀ c, validate streamId raw = .ok c ↔ ∃ a key iv, read? raw = some a ∧
      a.Confirms streamId key iv ∧ c.key = Utf8.encode key ∧ c.iv = Utf8.encode iv) ∧
    (∀ r, validate streamId raw = .error r ↔
      (read? raw = none ∧ r = ⟨streamId, "", "", "unparseable ack: " ++ raw⟩) ∨
      ∃ a text, read? raw = some a ∧ a.Refuses streamId text ∧
        r = ⟨streamId, a.status, a.code, text⟩) ∧
    (∀ codes, (∃ r, validate streamId raw = .error r ∧ r.hasCode codes = true) ↔
      ∃ a, read? raw = some a ∧ (∀ key iv, ¬a.Confirms streamId key iv) ∧
        trim a.code ≠ "" ∧ trim a.code ∈ codes) ∧
    ∀ a : Ack, ∃ raw, read? raw = some a := by
  refine ⟨?_, ?_, ?_, fun a => ⟨a.write, a.read?_write⟩⟩
  · intro c
    cases read : read? raw with
    | none => simp [validate_of_unread read]
    | some a => simp [validate_of_read? read, check_eq_ok_iff]
  · intro r
    cases read : read? raw with
    | none => simp [validate_of_unread read, Rejection.unparseable, eq_comm]
    | some a => simp [validate_of_read? read, check_eq_error_iff]
  · intro codes
    cases read : read? raw with
    | none =>
      have blank : trim "" = "" := rfl
      simp [validate_of_unread read, Rejection.hasCode_iff, Rejection.unparseable, blank]
    | some a =>
      simp only [validate_of_read? read, Rejection.hasCode_iff, Option.some.injEq]
      constructor
      · rintro ⟨r, rejected, coded⟩
        obtain ⟨text, refuses, rfl⟩ := check_eq_error_iff.1 rejected
        exact ⟨a, rfl, refuses_iff.1 ⟨text, refuses⟩, coded⟩
      · rintro ⟨_, rfl, unconfirmed, coded⟩
        obtain ⟨text, refuses⟩ := refuses_iff.2 unconfirmed
        exact ⟨_, check_of_refuses refuses, coded⟩

/-- An ack with blanks around its parts, whose key has two bytes for each of its characters. -/
def paddedText : String :=
  "\x7b\"header\":\x7b\"tr_id\":\" H0STCNI9\"\x7d,\"body\":\x7b\"rt_cd\":\"0\u3000\"," ++
    "\"output\":\x7b\"key\":\"éééééééé\",\"iv\":\"fedcba9876543210\"\x7d\x7d\x7d"

/-- An ack with no header and no status. -/
def partialText : String := "\x7b\"body\":\x7b\"msg_cd\":\"OPSP0011 \"\x7d\x7d"

/-- The first of these texts is accepted, and the other one calls for a new key. -/
theorem paddedText_accepted :
    (∃ c, validate "H0STCNI9" paddedText = .ok c ∧ c.key = Utf8.encode "éééééééé") ∧
      ∃ r, validate "H0STCNI9" partialText = .error r ∧ r.hasCode ["OPSP8996", "OPSP0011"] := by
  have padded : read? paddedText = some ⟨" H0STCNI9", none, none, "0\u3000", "", "",
      some ⟨some "éééééééé", some "fedcba9876543210"⟩⟩ := by
    cbv
  have partial_ : read? partialText = some ⟨"", none, none, "", "OPSP0011 ", "", none⟩ := by
    cbv
  constructor
  · obtain ⟨accepts, -⟩ := validate_verdicts "H0STCNI9" paddedText
    refine ⟨⟨Utf8.encode "éééééééé", Utf8.encode "fedcba9876543210", by decide, by decide⟩, ?_, rfl⟩
    refine (accepts _).2 ⟨_, _, _, padded, ?_, rfl, rfl⟩
    exact ⟨by decide, by decide, rfl, by decide, by decide⟩
  · obtain ⟨-, -, calls, -⟩ := validate_verdicts "H0STCNI9" partialText
    refine (calls _).2 ⟨_, partial_, ?_, by decide, by decide⟩
    intro key iv confirms
    cases confirms.output

end Ack

end FillFeed
