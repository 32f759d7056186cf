import FillFeed.Cache.Protocol

/-!
# A cache server

`Cache.Server` keeps values under keys. It may be given a script of answers, which then come before
what it keeps would give and leave that as it is. It remembers the commands it received.
-/

namespace FillFeed.Cache

/-- A cache server: what it keeps, the answers it was given, and the commands so far. -/
structure Server where
  values : List (String × String)
  script : List (Option Answer)
  received : List Command

namespace Server

/-- A server that keeps nothing yet. -/
def scripted (script : List (Option Answer)) : Server := ⟨[], script, []⟩

/-- Answers a command from what the server keeps. -/
def serve (values : List (String × String)) : Command → List (String × String) × Answer
  | .get key =>
    match values.lookup key with
    | some value => (values, .bulk (Utf8.encode value))
    | none => (values, .absent)
  | .setFor key _ value => ((key, value) :: values.filter (·.1 != key), .status "OK")

/-- Answers a command. -/
def ask (s : Server) (c : Command) : Server × Answer :=
  match s.script with
  | some answer :: rest => (⟨s.values, rest, s.received ++ [c]⟩, answer)
  | none :: rest =>
    let (values, answer) := serve s.values c
    (⟨values, rest, s.received ++ [c]⟩, answer)
  | [] =>
    let (values, answer) := serve s.values c
    (⟨values, [], s.received ++ [c]⟩, answer)

/-- A server remembers every command. -/
theorem received_ask (s : Server) (c : Command) : (s.ask c).1.received = s.received ++ [c] := by
  rw [ask]
  split <;> rfl

/-- What was set is what is got. -/
theorem serve_get_serve_setFor (values : List (String × String)) (key value : String) (n : Nat) :
    (serve (serve values (.setFor key n value)).1 (.get key)).2.value = .ok (some value) := by
  simp [serve, Answer.value_bulk_encode]

end Server

end FillFeed.Cache
