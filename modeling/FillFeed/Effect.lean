import FillFeed.Notice

/-!
# Effects

An `Effect` is what can be seen of a step of the client: a call to a collaborator begins, a
transport is opened or gives a frame, something is told, counted or published. A `Recorder` keeps
the counts of a history of effects.
-/

namespace FillFeed

/-- What can be seen of a step. -/
inductive Effect where
  | began (call : Call)
  | opened (transport : TransportId)
  | took (transport : TransportId) (frame : WireFrame)
  | noted (notice : Notice)
  | counted (metric : Metric)
  | published (state : ConnectionState)

namespace Recorder

/-- The recorder after an effect. -/
def observe (r : Recorder) : Effect → Recorder
  | .counted m => r.count m
  | .published s => r.publish s
  | _ => r

/-- The recorder after some effects. -/
def observeAll (r : Recorder) (effects : List Effect) : Recorder := effects.foldl observe r

end Recorder

end FillFeed
