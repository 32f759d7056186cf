import FillFeed.Text.Blank
import FillFeed.Json.Record
import FillFeed.Json.Writer

/-!
# Subscription acks

An `Ack` is the answer to a subscription request. All of its parts may be missing; the codes and
the text are then empty. A successful ack brings the key and the initial vector of its stream.
-/

namespace FillFeed

/-- The decryption material in an ack. -/
structure Ack.Output where
  key : Option String
  iv : Option String
  deriving DecidableEq

/-- The answer to a subscription request. -/
structure Ack where
  streamId : String
  subscriberKey : Option String
  encrypted : Option String
  status : String
  code : String
  text : String
  output : Option Ack.Output
  deriving DecidableEq

namespace Ack

/-- The decryption material that a tree holds. -/
def Output.ofTree? (t : Json.Tree) : Option Output := do
  let r ← t.record? ["key", "iv"]
  let key ← r.orElse "key" none (Json.Tree.nullable Json.Tree.string?)
  let iv ← r.orElse "iv" none (Json.Tree.nullable Json.Tree.string?)
  some ⟨key, iv⟩

/-- The three parts of the header that a tree holds. -/
def headerOfTree? (t : Json.Tree) : Option (String × Option String × Option String) := do
  let r ← t.record? ["tr_id", "tr_key", "encrypt"]
  let streamId ← r.orElse "tr_id" "" Json.Tree.string?
  let subscriberKey ← r.orElse "tr_key" none (Json.Tree.nullable Json.Tree.string?)
  let encrypted ← r.orElse "encrypt" none (Json.Tree.nullable Json.Tree.string?)
  some (streamId, subscriberKey, encrypted)

/-- The four parts of the body that a tree holds. -/
def bodyOfTree? (t : Json.Tree) : Option (String × String × String × Option Output) := do
  let r ← t.record? ["rt_cd", "msg_cd", "msg1", "output"]
  let status ← r.orElse "rt_cd" "" Json.Tree.string?
  let code ← r.orElse "msg_cd" "" Json.Tree.string?
  let text ← r.orElse "msg1" "" Json.Tree.string?
  let output ← r.orElse "output" none (Json.Tree.nullable Output.ofTree?)
  some (status, code, text, output)

/-- The ack that a tree holds. -/
def ofTree? (t : Json.Tree) : Option Ack := do
  let r ← t.record? ["header", "body"]
  let (streamId, subscriberKey, encrypted) ← r.orElse "header" ("", none, none) headerOfTree?
  let (status, code, text, output) ← r.orElse "body" ("", "", "", none) bodyOfTree?
  some ⟨streamId, subscriberKey, encrypted, status, code, text, output⟩

/-- The ack that a text holds. -/
def read? (s : String) : Option Ack := (Json.Tree.read? s).bind ofTree?

/-- The decryption material as a JSON value. -/
def Output.toJson (o : Output) : Json :=
  .object [("key", Json.ofText? o.key), ("iv", Json.ofText? o.iv)]

/-- An ack as a JSON value. -/
def toJson (a : Ack) : Json :=
  .object
    [("header", .object
      [("tr_id", .string a.streamId),
       ("tr_key", Json.ofText? a.subscriberKey),
       ("encrypt", Json.ofText? a.encrypted)]),
     ("body", .object
      [("rt_cd", .string a.status),
       ("msg_cd", .string a.code),
       ("msg1", .string a.text),
       ("output", match a.output with
         | some o => o.toJson
         | none => .null)])]

/-- The text of an ack. -/
def write (a : Ack) : String := a.toJson.write

/-- Whether the server accepted the request. -/
def isSuccess (a : Ack) : Bool := Text.trim a.status == "0"

/-- The key and the initial vector, when both are there and neither is empty. -/
def keyIv? (a : Ack) : Option (String × String) := do
  let o ← a.output
  let key ← o.key
  let iv ← o.iv
  if key = "" ∨ iv = "" then none else some (key, iv)

end Ack

end FillFeed
