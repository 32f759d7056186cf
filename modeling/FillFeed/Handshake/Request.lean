import FillFeed.Credential
import FillFeed.Stream
import FillFeed.Json.Record
import FillFeed.Json.Writer

/-!
# Subscription requests

A `Request` asks the server to report one stream to one subscriber. `Request.subscribe` builds it
from an approval key and a subscription; its text is the JSON form of its two parts.
-/

namespace FillFeed

/-- A request to be sent the reports of one stream. -/
structure Request where
  approvalKey : String
  customerType : String
  registration : String
  contentType : String
  streamId : String
  subscriberKey : String
  deriving DecidableEq

namespace Request

/-- The request to subscribe as a private customer. -/
def subscribe (key : ApprovalKey) (s : Subscription) : Request :=
  ⟨key.text, "P", "1", "utf-8", s.streamId, s.subscriberKey⟩

/-- A request as a JSON value. -/
def toJson (r : Request) : Json :=
  .object
    [("header", .object
      [("approval_key", .string r.approvalKey),
       ("custtype", .string r.customerType),
       ("tr_type", .string r.registration),
       ("content-type", .string r.contentType)]),
     ("body", .object
      [("input", .object
        [("tr_id", .string r.streamId),
         ("tr_key", .string r.subscriberKey)])])]

/-- The text of a request. -/
def write (r : Request) : String := r.toJson.write

/-- The request that a tree holds. -/
def ofTree? (t : Json.Tree) : Option Request := do
  let r ← t.record? ["header", "body"]
  let header ← r.required "header"
    (Json.Tree.record? ["approval_key", "custtype", "tr_type", "content-type"])
  let approvalKey ← header.required "approval_key" Json.Tree.string?
  let customerType ← header.required "custtype" Json.Tree.string?
  let registration ← header.required "tr_type" Json.Tree.string?
  let contentType ← header.required "content-type" Json.Tree.string?
  let body ← r.required "body" (Json.Tree.record? ["input"])
  let input ← body.required "input" (Json.Tree.record? ["tr_id", "tr_key"])
  let streamId ← input.required "tr_id" Json.Tree.string?
  let subscriberKey ← input.required "tr_key" Json.Tree.string?
  some ⟨approvalKey, customerType, registration, contentType, streamId, subscriberKey⟩

/-- The request that a text holds. -/
def read? (s : String) : Option Request := (Json.Tree.read? s).bind ofTree?

end Request

end FillFeed
