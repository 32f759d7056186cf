import Mathlib
import FillFeed.Handshake.Ack
import FillFeed.Handshake.Request
import FillFeed.Proofs.Json.Values

/-!
# Requests and acks read back

A request and an ack are written as objects with one member for each of their fields. Reading finds
these members again (`Request.read?_write`, `Ack.read?_write`), and nothing else: whatever texts a
request is made of, a reader that knows nothing of requests finds exactly its members with these
texts in them (`handshake_texts_read_back`), so that no text can add a member or change another one.
-/

namespace FillFeed

open Json (Tree)

namespace Request

/-- The tree that a request is written as. -/
def tree (r : Request) : Tree :=
  .object
    [(some "header", .object
      [(some "approval_key", .string (some r.approvalKey)),
       (some "custtype", .string (some r.customerType)),
       (some "tr_type", .string (some r.registration)),
       (some "content-type", .string (some r.contentType))]),
     (some "body", .object
      [(some "input", .object
        [(some "tr_id", .string (some r.streamId)),
         (some "tr_key", .string (some r.subscriberKey))])])]

/-- A request is written as its tree. -/
lemma toTree?_toJson (r : Request) : r.toJson.toTree? = some r.tree := rfl

/-- The tree of a request is read as this request. -/
lemma ofTree?_tree (r : Request) : ofTree? r.tree = some r := rfl

/-- A request that was written is read back. -/
lemma read?_write (r : Request) : read? r.write = some r := by
  rw [read?, write, Json.read?_write r.toTree?_toJson, Option.bind_some, ofTree?_tree]

/-- The members of a request in the order of their names. -/
lemma ordered_toJson (r : Request) :
    r.toJson.ordered = .object
      [("body", .object
        [("input", .object
          [("tr_id", .string r.streamId),
           ("tr_key", .string r.subscriberKey)])]),
       ("header", .object
        [("approval_key", .string r.approvalKey),
         ("content-type", .string r.contentType),
         ("custtype", .string r.customerType),
         ("tr_type", .string r.registration)])] :=
  rfl

/-- The value of a request is three levels deep. -/
lemma depth_toJson (r : Request) : r.toJson.depth = 3 := rfl

end Request

namespace Ack

/-- The tree that decryption material is written as. -/
def Output.tree (o : Output) : Tree :=
  .object [(some "key", .ofText? o.key), (some "iv", .ofText? o.iv)]

/-- The tree of decryption material that may be absent. -/
def outputTree : Option Output → Tree
  | some o => o.tree
  | none => .null

/-- The tree that the header of an ack is written as. -/
def headerTree (a : Ack) : Tree :=
  .object
    [(some "tr_id", .string (some a.streamId)),
     (some "tr_key", .ofText? a.subscriberKey),
     (some "encrypt", .ofText? a.encrypted)]

/-- The tree that the body of an ack is written as. -/
def bodyTree (a : Ack) : Tree :=
  .object
    [(some "rt_cd", .string (some a.status)),
     (some "msg_cd", .string (some a.code)),
     (some "msg1", .string (some a.text)),
     (some "output", outputTree a.output)]

/-- The tree that an ack is written as. -/
def tree (a : Ack) : Tree := .object [(some "header", a.headerTree), (some "body", a.bodyTree)]

/-- An ack is written as its tree. -/
lemma toTree?_toJson (a : Ack) : a.toJson.toTree? = some a.tree := by
  obtain ⟨streamId, subscriberKey, encrypted, status, code, text, output⟩ := a
  cases output <;>
    simp only [toJson, Output.toJson, Json.toTree?, Json.memberTrees?, Json.toTree?_ofText?,
      Option.map_some, tree, headerTree, bodyTree, outputTree, Output.tree]

/-- Material is found in its tree, and none in `null`. -/
lemma nullable_outputTree (o : Option Output) :
    (outputTree o).nullable Output.ofTree? = some o := by
  cases o with
  | none => rfl
  | some o =>
    obtain ⟨key, iv⟩ := o
    cases key <;> cases iv <;> rfl

/-- The tree of a header is read as what the header has. -/
lemma headerOfTree?_headerTree (a : Ack) :
    headerOfTree? a.headerTree = some (a.streamId, a.subscriberKey, a.encrypted) := by
  simp [headerOfTree?, headerTree, Tree.record?, Json.pickMembers, Json.Record.orElse,
    Json.nullable_ofText?, Tree.string?, List.lookup]

/-- The tree of a body is read as what the body has. -/
lemma bodyOfTree?_bodyTree (a : Ack) :
    bodyOfTree? a.bodyTree = some (a.status, a.code, a.text, a.output) := by
  simp [bodyOfTree?, bodyTree, Tree.record?, Json.pickMembers, Json.Record.orElse,
    nullable_outputTree, Tree.string?, List.lookup]

/-- The header and the body of an ack hold all of its parts. -/
lemma ofTree?_tree (a : Ack) : ofTree? a.tree = some a := by
  simp [ofTree?, tree, Tree.record?, Json.pickMembers, Json.Record.orElse, List.lookup,
    headerOfTree?_headerTree, bodyOfTree?_bodyTree]

/-- An ack that was written is read back. -/
lemma read?_write (a : Ack) : read? a.write = some a := by
  rw [read?, write, Json.read?_write a.toTree?_toJson, Option.bind_some, ofTree?_tree]

end Ack

/-- The request to subscribe, whatever texts the approval key and the subscription hold, is read as
free-form JSON as the object with its members and with nothing else in it, and as a request as
itself. Every ack that was written is read back as itself. -/
theorem handshake_texts_read_back :
    (∀ (key : ApprovalKey) (s : Subscription),
      Json.read? (Request.subscribe key s).write = some (.object
        [("body", .object
          [("input", .object
            [("tr_id", .string s.streamId),
             ("tr_key", .string s.subscriberKey)])]),
         ("header", .object
          [("approval_key", .string key.text),
           ("content-type", .string "utf-8"),
           ("custtype", .string "P"),
           ("tr_type", .string "1")])]) ∧
      Request.read? (Request.subscribe key s).write = some (Request.subscribe key s)) ∧
    ∀ a : Ack, Ack.read? a.write = some a := by
  refine ⟨fun key s => ⟨?_, (Request.subscribe key s).read?_write⟩, Ack.read?_write⟩
  have shallow : (Request.subscribe key s).toJson.depth ≤ Json.depthLimit := by
    rw [Request.depth_toJson]
    decide
  rw [Request.write, Json.read?_write_eq_ordered (Request.toTree?_toJson _) shallow,
    Request.ordered_toJson]
  rfl

end FillFeed
