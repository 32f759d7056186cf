import FillFeed.Rehearsal.Scene

/-!
# Rehearsing requests for keys

A request for an approval key, made of the cast directly and without a client. It goes on whenever
its collaborator answers and ends with a key or an error, or not at all if a collaborator hangs.
-/

namespace FillFeed.Rehearsal.Scene

open Approval

/-- Goes on with a request until it is answered. -/
def settle : (fuel : Nat) → Scene → Stage → Flight →
    Scene × Option (Except IssuanceError ApprovalKey)
  | 0, s, _, _ => (s, none)
  | fuel + 1, s, stage, flight =>
    match flight.due with
    | none => (s, none)
    | some due =>
      let (s, reply) := { s with now := max s.now due }.answer flight
      match Approval.advance stage reply with
      | none => (s, none)
      | some (.done result, effects) => (s.observe effects, some result)
      | some (.waits stage, effects) =>
        match s.advance s.shared effects with
        | (s, some flight) => settle fuel s stage flight
        | (s, none) => (s, none)

/-- Makes a request; three answers settle any. -/
def request (s : Scene) (stage : Stage) : Scene × Option (Except IssuanceError ApprovalKey) :=
  match s.advance s.shared [.began stage.call] with
  | (s, some flight) => settle 4 s stage flight
  | (s, none) => (s, none)

/-- Lets go of the cache. -/
def releaseCache (s : Scene) : Scene := s.observe [.began .releaseCache]

end FillFeed.Rehearsal.Scene
