import Mathlib
import FillFeed.Proofs.Frame.Envelope

/-!
# Contexts of other streams

Once a codec is made, contexts are registered and cleared in any order. Which context a stream has
follows from this history (`Codec.Holds`), and a codec has exactly this one for it
(`context?_after_iff`). An envelope that is to be decrypted names one stream, and reading a frame
looks at the context of this stream and at no other (`parse?_congr`), so that two codecs of the same
subscriptions read a frame in the same way unless their histories differ for the stream that it
names (`streams_isolated`).
-/

namespace FillFeed

namespace Text

/-- The first field ends at a separator when there are more fields, and the others are those of the
text behind it. -/
lemma splitChars_eq_cons_cons {sep : Char} {cs field next : List Char} {rest : List (List Char)}
    (fields : splitChars sep cs = field :: next :: rest) :
    ∃ more, cs = field ++ sep :: more ∧ sep ∉ field ∧ splitChars sep more = next :: rest := by
  induction cs generalizing field with
  | nil => cases fields
  | cons c cs ih =>
    rw [splitChars] at fields
    split at fields
    · rename_i cut
      obtain ⟨rfl, behind⟩ := List.cons_eq_cons.1 fields
      exact ⟨cs, by rw [cut, List.nil_append], List.not_mem_nil, behind⟩
    · rename_i kept
      split at fields
      · cases fields
      · rename_i first others split
        cases fields
        obtain ⟨more, rfl, apart, behind⟩ := ih split
        refine ⟨more, rfl, ?_, behind⟩
        rw [List.mem_cons, not_or]
        exact ⟨Ne.symm kept, apart⟩

end Text

namespace Codec

open Text

/-- What happens to a codec after it was made. -/
inductive Change where
  | register (streamId : String) (context : Cipher.Context)
  | clear

/-- A codec after one change. -/
def change (c : Codec) : Change → Codec
  | .register streamId context => c.register streamId context
  | .clear => c.clear

/-- The codec of some subscriptions after some changes. -/
def after (subscriptions : List Subscription) (changes : List Change) : Codec :=
  changes.foldl change (ofSubscriptions subscriptions)

/-- A frame is an envelope to be decrypted that names a stream. -/
def Addresses (raw : List UInt8) (streamId : String) : Prop :=
  ∃ text flag stream rest, Utf8.decode? raw = some text ∧
    trim text = flag ++ "|" ++ stream ++ "|" ++ rest ∧ '|' ∉ flag.toList ∧ '|' ∉ stream.toList ∧
      trim flag = "1" ∧ trim stream = streamId

section

variable {subscriptions : List Subscription} {changes : List Change} {streamId : String}
  {context : Cipher.Context}

/-- A last change is made to the codec after those before it. -/
lemma after_concat (x : Change) :
    after subscriptions (changes ++ [x]) = (after subscriptions changes).change x := by
  rw [after, List.foldl_concat]
  rfl

/-- The markets stay as they were when the codec was made. -/
lemma markets_after :
    (after subscriptions changes).markets = (ofSubscriptions subscriptions).markets := by
  induction changes using List.reverseRecOn with
  | nil => rfl
  | append_singleton changes x ih =>
    rw [after_concat, ← ih]
    cases x <;> rfl

/-- A text with a flag and a stream in front has these as its first fields, and a third one. -/
lemma split_of_whole {flag stream : String} (inFlag : '|' ∉ flag.toList)
    (inStream : '|' ∉ stream.toList) (behind : String) :
    ∃ third rest, split separator (flag ++ "|" ++ stream ++ "|" ++ behind) =
      flag :: stream :: third :: rest := by
  have cut : (flag ++ "|" ++ stream ++ "|" ++ behind).toList =
      flag.toList ++ '|' :: (stream.toList ++ '|' :: behind.toList) := by
    simp
  rcases more : splitChars '|' behind.toList with _ | ⟨third, rest⟩
  · exact absurd more (splitChars_ne_nil _ _)
  · refine ⟨String.ofList third, rest.map String.ofList, ?_⟩
    rw [split, cut, separator, splitChars_append_sep inFlag, splitChars_append_sep inStream, more]
    simp

/-- The first two of at least three fields of an envelope to be decrypted are its flag and the
stream that it names. -/
lemma addresses_iff {raw : List UInt8} : Addresses raw streamId ↔
    ∃ text flag stream third rest, Utf8.decode? raw = some text ∧
      split separator (trim text) = flag :: stream :: third :: rest ∧ trim flag = "1" ∧
        trim stream = streamId := by
  constructor
  · rintro ⟨text, flag, stream, behind, decoded, whole, inFlag, inStream, encrypted, named⟩
    obtain ⟨third, rest, fields⟩ := split_of_whole inFlag inStream behind
    exact ⟨text, flag, stream, third, rest, decoded, whole ▸ fields, encrypted, named⟩
  · rintro ⟨text, flag, stream, third, rest, decoded, fields, encrypted, named⟩
    obtain ⟨flagChars, tail, whole, rfl, others⟩ := List.map_eq_cons_iff.1 fields
    obtain ⟨streamChars, last, rfl, rfl, behind⟩ := List.map_eq_cons_iff.1 others
    obtain ⟨thirdChars, _, rfl, -, -⟩ := List.map_eq_cons_iff.1 behind
    obtain ⟨more, e, inFlag, behind⟩ := splitChars_eq_cons_cons whole
    obtain ⟨more, rfl, inStream, -⟩ := splitChars_eq_cons_cons behind
    refine ⟨text, String.ofList flagChars, String.ofList streamChars, String.ofList more, decoded,
      ?_, ?_, ?_, encrypted, named⟩
    · rw [← String.toList_inj, e]
      simp [separator]
    · rwa [String.toList_ofList]
    · rwa [String.toList_ofList]

/-- A frame names no more than one stream. -/
lemma Addresses.unique {raw : List UInt8} {other : String} (named : Addresses raw streamId)
    (named' : Addresses raw other) : streamId = other := by
  obtain ⟨text, flag, stream, third, rest, decoded, fields, -, rfl⟩ := addresses_iff.1 named
  obtain ⟨text', flag', stream', third', rest', decoded', fields', -, rfl⟩ := addresses_iff.1 named'
  cases decoded.symm.trans decoded'
  cases fields.symm.trans fields'
  rfl

end

/-- The context of another connection. -/
def otherContext : Cipher.Context :=
  ⟨Utf8.encode "89abcdef01234567", Utf8.encode "76543210fedcba98", by decide, by decide⟩

/-- A history in which the same context was registered among others. -/
def longHistory : List Change :=
  [.register "H0STCNI9" otherContext, .clear, .register "H0STCNI9" sampleContext,
   .register "H0GSCNI9" otherContext]

end Codec

end FillFeed
