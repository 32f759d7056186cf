import Mathlib
import FillFeed.Client.Shared

/-!
# Shared parts under access

A change of the connection state concerns nothing but the state: the slot, the signal to stop and
the number of transports stay as they are, and the change is only told and published. The lemmas
here say so for `Shared.setState` and `Shared.shutDown`; `Shared.setState_cases` is what they rest
on.
-/

namespace FillFeed.Client

namespace Shared

variable {s : Shared} {next : ConnectionState}

/-- A change of the state has no effect at all, or changes the state and tells so. -/
lemma setState_cases (s : Shared) (next : ConnectionState) :
    s.setState next = (s, []) ∨
      s.setState next =
        ({ s with state := next }, [.noted (.stateChanged s.state next), .published next]) := by
  unfold setState
  split
  · exact .inl rfl
  · exact .inr rfl

/-- Shutting down has no effect at all, or changes the state and publishes it. -/
lemma shutDown_cases (s : Shared) :
    s.shutDown = (s, []) ∨
      s.shutDown = ({ s with state := .shuttingDown }, [.published .shuttingDown]) := by
  unfold shutDown
  split
  · exact .inl rfl
  · exact .inr rfl

/-- What is parked stays so when the state is set. -/
@[simp] lemma setState_slot : (s.setState next).1.slot = s.slot := by
  obtain e | e := setState_cases s next <;> rw [e]

/-- Whether the client is stopped does not change when the state is set. -/
@[simp] lemma setState_stopped : (s.setState next).1.stopped = s.stopped := by
  obtain e | e := setState_cases s next <;> rw [e]

/-- No transport is opened when the state is set. -/
@[simp] lemma setState_opened : (s.setState next).1.opened = s.opened := by
  obtain e | e := setState_cases s next <;> rw [e]

/-- A change of the state takes place unless the state is the terminal one. -/
lemma setState_state (alive : s.state.isTerminal = false) : (s.setState next).1.state = next := by
  unfold setState
  split
  · rename_i kept
    obtain terminal | same := kept
    · cases alive.symm.trans terminal
    · exact same
  · rfl

/-- What is parked stays so when the client shuts down. -/
@[simp] lemma shutDown_slot : s.shutDown.1.slot = s.slot := by
  obtain e | e := shutDown_cases s <;> rw [e]

/-- Whether the client is stopped does not change when it shuts down. -/
@[simp] lemma shutDown_stopped : s.shutDown.1.stopped = s.stopped := by
  obtain e | e := shutDown_cases s <;> rw [e]

end Shared

/-- What is seen of a change of the state concerns nobody who looks for neither changes of the state
nor publications. -/
lemma filterMap_setState {α : Type} {f : Effect → Option α} {s : Shared} {next : ConnectionState}
    (untold : ∀ x y, f (.noted (.stateChanged x y)) = none)
    (unpublished : ∀ x, f (.published x) = none) :
    (s.setState next).2.filterMap f = [] := by
  obtain e | e := s.setState_cases next
  · rw [e]
    rfl
  · rw [e, List.filterMap_cons_none (untold _ _), List.filterMap_cons_none (unpublished _)]
    rfl

/-- What is told about a closing concerns nobody who does not look for a failure to close. -/
lemma filterMap_closeNotices {α : Type} {f : Effect → Option α}
    {result : Except TransportError Unit} (untold : ∀ e, f (.noted (.closeFailed e)) = none) :
    (closeNotices result).filterMap f = [] := by
  cases result with
  | ok => rfl
  | error e => exact List.filterMap_cons_none (untold e)

/-- A change of the state calls nobody. -/
lemma began_notMem_setState {s : Shared} {next : ConnectionState} {call : Call} :
    .began call ∉ (s.setState next).2 := by
  obtain e | e := s.setState_cases next <;> simp [e]

/-- What is told about a closing calls nobody. -/
lemma began_notMem_closeNotices {result : Except TransportError Unit} {call : Call} :
    .began call ∉ closeNotices result := by
  cases result <;> simp [closeNotices]

end FillFeed.Client
