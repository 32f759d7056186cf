import FillFeed.Cipher.Context
import FillFeed.Frame.Payload
import FillFeed.Json.Reader

/-!
# Frames

`Codec.parse?` classifies a frame by its text: a keepalive anywhere names its token, a control
frame is a JSON object, and an envelope has fields between `|`. A `Codec` knows the markets of the
streams and, for each stream that was confirmed, the context to decrypt its envelopes with;
`Codec.context?` is the view of these contexts as a map. Whatever cannot be understood is no frame.
-/

namespace FillFeed

/-- A frame that was understood. -/
inductive Frame where
  | keepalive (raw : String)
  | control (value : Json)
  | execution (fill : Fill)

/-- What is known about the streams of one connection. -/
structure Codec where
  markets : List (String × Market)
  contexts : List (String × Cipher.Context)

namespace Codec

/-- The codec of a connection on which nothing is confirmed yet. A stream that is listed twice
has the market of its last entry. -/
def ofSubscriptions (subscriptions : List Subscription) : Codec :=
  ⟨(subscriptions.map fun s => (s.streamId, s.market)).reverse, []⟩

/-- The context of a stream. -/
def context? (c : Codec) (streamId : String) : Option Cipher.Context := c.contexts.lookup streamId

/-- The market of a stream. -/
def market (c : Codec) (streamId : String) : Market := (c.markets.lookup streamId).getD .unknown

/-- Contexts with the one of a stream set. -/
def setContext (streamId : String) (context : Cipher.Context) :
    List (String × Cipher.Context) → List (String × Cipher.Context)
  | [] => [(streamId, context)]
  | (other, old) :: rest =>
    if streamId = other then (streamId, context) :: rest
    else (other, old) :: setContext streamId context rest

/-- The codec with the context of a stream set. -/
def register (c : Codec) (streamId : String) (context : Cipher.Context) : Codec :=
  { c with contexts := setContext streamId context c.contexts }

/-- The codec without contexts. -/
def clear (c : Codec) : Codec := { c with contexts := [] }

/-- The number of streams that have a context. -/
def contextCount (c : Codec) : Nat := c.contexts.length

/-- Setting the context of a stream sets it for this stream and for no other one. -/
@[simp] theorem context?_register (c : Codec) (s t : String) (k : Cipher.Context) :
    (c.register s k).context? t = if t = s then some k else c.context? t := by
  simp only [register, context?]
  induction c.contexts with
  | nil =>
    by_cases h : t = s
    · simp [setContext, h]
    · have : (t == s) = false := by simpa using h
      simp [setContext, List.lookup_cons, h, this]
  | cons p rest ih =>
    obtain ⟨other, old⟩ := p
    by_cases ho : s = other
    · subst ho
      by_cases h : t = s
      · simp [setContext, h]
      · have : (t == s) = false := by simpa using h
        simp [setContext, List.lookup_cons, h, this]
    · rw [setContext, if_neg ho]
      by_cases h : t = other
      · subst h
        simp [Ne.symm ho]
      · have : (t == other) = false := by simpa using h
        simpa [List.lookup_cons, this] using ih

/-- A codec that was cleared has no contexts. -/
@[simp] theorem context?_clear (c : Codec) (t : String) : c.clear.context? t = none := rfl

/-- A codec that was just made has no contexts. -/
@[simp] theorem context?_ofSubscriptions (l : List Subscription) (t : String) :
    (ofSubscriptions l).context? t = none := rfl

/-- The word that marks a keepalive, in any case of its letters. -/
def keepaliveToken : List Char := ['p', 'i', 'n', 'g', 'p', 'o', 'n', 'g']

/-- The character between the fields of an envelope. -/
def separator : Char := '|'

/-- The fill in a plain envelope: the payload is the fourth field, or the third one if there are no
more than three. -/
def plain? (c : Codec) (streamId third : String) (fourth : Option String) : Option Fill :=
  match fourth with
  | some payload => Payload.fill? streamId (c.market streamId) (some third) payload
  | none => Payload.fill? streamId (c.market streamId) none third

/-- The fill in an encrypted envelope, for which the stream must have a context. -/
def encrypted? (c : Codec) (streamId third : String) (fourth : Option String) : Option Fill :=
  match fourth, c.context? streamId with
  | some ciphertext, some context =>
    match context.decrypt ciphertext with
    | .ok payload => Payload.fill? streamId (c.market streamId) (some third) payload
    | .error _ => none
  | _, _ => none

/-- The fill in an envelope. -/
def envelope? (c : Codec) (text : String) : Option Fill :=
  match Text.split separator text with
  | flag :: stream :: third :: rest =>
    let streamId := Text.trim stream
    if Text.trim flag = "0" then c.plain? streamId third rest.head?
    else if Text.trim flag = "1" then c.encrypted? streamId third rest.head?
    else none
  | _ => none

/-- Whether a text names the keepalive token. -/
def isKeepalive (text : String) : Bool :=
  Text.containsChars keepaliveToken (text.toList.map Text.asciiLower)

/-- The frame in a text. -/
def parseText? (c : Codec) (text : String) : Option Frame :=
  let trimmed := Text.trim text
  if trimmed = "" then none
  else if isKeepalive trimmed then some (.keepalive text)
  else if trimmed.toList.head? = some '\x7b' then (Json.read? trimmed).map .control
  else (c.envelope? trimmed).map .execution

/-- The frame in some bytes, which have to be a text. -/
def parse? (c : Codec) (raw : List UInt8) : Option Frame := (Utf8.decode? raw).bind c.parseText?

end Codec

end FillFeed
