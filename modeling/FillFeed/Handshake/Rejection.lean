import FillFeed.Cipher.Context
import FillFeed.Handshake.Ack
import FillFeed.Text.Quoted

/-!
# Checking acks

`Ack.check` compares an ack with the stream it should be for and takes the decryption material out
of it. What is wrong with an ack is a `Rejection`, which keeps the two codes of the ack: the
message code decides whether the approval key has to be replaced.
-/

namespace FillFeed

/-- Why a subscription was not confirmed. -/
structure Rejection where
  streamId : String
  status : String
  code : String
  text : String
  deriving DecidableEq

namespace Rejection

/-- The rejection of a text that is no ack. -/
def unparseable (streamId raw : String) : Rejection :=
  ⟨streamId, "", "", "unparseable ack: " ++ raw⟩

/-- Whether the message code is one of the given codes. -/
def hasCode (r : Rejection) (codes : List String) : Bool :=
  let code := Text.trim r.code
  code != "" && codes.contains code

/-- The wording of a rejection. -/
def message (r : Rejection) : String :=
  "subscription to " ++ r.streamId ++ " rejected (rt_cd=" ++ Text.quote r.status ++ ", msg_cd=" ++
    Text.quote r.code ++ "): " ++ r.text

end Rejection

/-- The decryption material of an ack for a stream, or what is wrong with the ack: it is for
another stream, reports a failure, or brings no key and vector of the right lengths. -/
def Ack.check (streamId : String) (a : Ack) : Except Rejection Cipher.Context :=
  let rejected (text : String) : Except Rejection Cipher.Context :=
    .error ⟨streamId, a.status, a.code, text⟩
  if Text.trim a.streamId ≠ streamId then
    rejected ("ack for unexpected stream " ++ Text.quote a.streamId)
  else if a.isSuccess = false then rejected a.text
  else match a.keyIv? with
    | none => rejected "ack carries no key/iv"
    | some (key, iv) =>
      match Cipher.Context.ofTexts key iv with
      | .ok context => .ok context
      | .error e => rejected e.message

/-- The decryption material in the text of an ack for a stream, or what is wrong with the text. -/
def Ack.validate (streamId raw : String) : Except Rejection Cipher.Context :=
  match Ack.read? raw with
  | none => .error (.unparseable streamId raw)
  | some a => a.check streamId

end FillFeed
