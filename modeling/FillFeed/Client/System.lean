import FillFeed.Client.Run
import FillFeed.Client.Stop

/-!
# A client and its tasks

Any number of calls may be in progress on one client at once. `System.Step` is one step of one of
them, in any order and with any happening that its call can meet, and `System.Steps` is a run of
the client together with everything that was seen of it.
-/

namespace FillFeed.Client

/-- A call in progress on a client. -/
inductive Task where
  | connect (c : Connect)
  | listen (l : Listen)
  | run (r : Run)
  | stop (s : Stop)

namespace Task

/-- The calls that a client offers, at their beginning. -/
inductive Fresh (cfg : Config) : Task → Prop where
  | connect : Fresh cfg (.connect (Connect.start cfg))
  | listen : Fresh cfg (.listen .taking)
  | run : Fresh cfg (.run (Run.start cfg))
  | stop : Fresh cfg (.stop .signalling)

/-- What a step of a task leads to. -/
structure Outcome where
  shared : Shared
  next : Task
  effects : List Effect

/-- Takes a task on with a happening. -/
def advance (cfg : Config) (shared : Shared) : Task → Happening → Option Outcome
  | .connect c, h =>
    (c.advance cfg shared h).map fun o => ⟨o.shared, .connect o.next, o.effects⟩
  | .listen l, h =>
    (l.advance cfg shared h).map fun o => ⟨o.shared, .listen o.next, o.effects⟩
  | .run r, h => (r.advance cfg shared h).map fun o => ⟨o.shared, .run o.next, o.effects⟩
  | .stop s, h => (s.advance cfg shared h).map fun o => ⟨o.shared, .stop o.next, o.effects⟩

/-- Whether a call has returned. -/
def isFinished : Task → Bool
  | .connect (.finished _) | .listen (.finished _) | .run (.finished _) | .stop .finished => true
  | _ => false

end Task

/-- A client and the calls in progress on it, in the order in which they were made. -/
structure System where
  shared : Shared
  tasks : List Task

namespace System

/-- A client on which nothing was called yet. -/
def initial : System := ⟨Shared.initial, []⟩

/-- One step: a call is made, or one of the calls in progress goes on. -/
inductive Step (cfg : Config) : System → List Effect → System → Prop where
  | call {sys : System} {t : Task} (fresh : Task.Fresh cfg t) :
      Step cfg sys [] ⟨sys.shared, sys.tasks ++ [t]⟩
  | act {sys : System} {i : Nat} {t : Task} {h : Happening} {o : Task.Outcome}
      (at_i : sys.tasks[i]? = some t) (goes : t.advance cfg sys.shared h = some o) :
      Step cfg sys o.effects ⟨o.shared, sys.tasks.set i o.next⟩

/-- A run: some steps, with all that was seen of them. -/
inductive Steps (cfg : Config) : System → List Effect → System → Prop where
  | refl (sys : System) : Steps cfg sys [] sys
  | tail {a b c : System} {seen more : List Effect} (run : Steps cfg a seen b)
      (step : Step cfg b more c) : Steps cfg a (seen ++ more) c

end System

end FillFeed.Client
