import FillFeed.Collaborator

/-!
# A queue of fills

`Queue` holds up to a number of items between a sender and a receiver. Items come out in the order
in which they went in, until the receiver is gone.
-/

namespace FillFeed

/-- A queue with room for a number of items. -/
structure Queue (α : Type) where
  capacity : Nat
  items : List α
  isClosed : Bool

namespace Queue

variable {α : Type}

/-- What becomes of an item that is sent: it is taken, or there is no room for it at present. -/
inductive Sending where
  | taken
  | full
  deriving DecidableEq

/-- A queue without items. -/
def empty (capacity : Nat) : Queue α := ⟨capacity, [], false⟩

/-- Sends an item, which fails when the receiver is gone. -/
def send (q : Queue α) (a : α) : Queue α × Except HandlerError Sending :=
  if q.isClosed then (q, .error .channelClosed)
  else if q.items.length < q.capacity then ({ q with items := q.items ++ [a] }, .ok .taken)
  else (q, .ok .full)

/-- Takes the oldest item out. -/
def receive (q : Queue α) : Queue α × Option α :=
  match q.items with
  | [] => (q, none)
  | a :: rest => ({ q with items := rest }, some a)

/-- Takes the receiver away, and with it the items that it did not take. -/
def close (q : Queue α) : Queue α := { q with items := [], isClosed := true }

/-- A queue never holds more than it has room for. -/
theorem length_send_le (q : Queue α) (a : α) (h : q.items.length ≤ q.capacity) :
    (q.send a).1.items.length ≤ (q.send a).1.capacity := by
  simp only [send]
  split
  · exact h
  · split
    · simp; omega
    · exact h

/-- The items that were taken are received in their order. -/
theorem receive_send {q : Queue α} {a b : α} {rest : List α} (hq : q.items = b :: rest) :
    ((q.send a).1.receive).2 = some b := by
  simp only [send]
  split
  · simp [receive, hq]
  · split <;> simp [receive, hq]

end Queue

end FillFeed
