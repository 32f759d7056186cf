import FillFeed.Text.Quoted

/-!
# The metrics endpoint

A process serves its metrics on at most one port. `Endpoint.install` sets that up once; after it
went well it is not done again.
-/

namespace FillFeed

/-- Why metrics are not served. -/
inductive EndpointError where
  | notListening (reason : String)
  | recorderTaken
  deriving DecidableEq

/-- The description of an error. -/
def EndpointError.describe : EndpointError → String
  | .notListening reason => "FailedToCreateHTTPListener(" ++ Text.quote reason ++ ")"
  | .recorderTaken => "FailedToSetGlobalRecorder(SetRecorderError \x7b .. \x7d)"

/-- Whether metrics are served, and whether they are recorded by something else. -/
structure Endpoint where
  isInstalled : Bool
  isTaken : Bool
  deriving DecidableEq

namespace Endpoint

/-- Nothing set up yet. -/
def none : Endpoint := ⟨false, false⟩

/-- Serves metrics on a port, on which it may not be possible to listen. -/
def install (e : Endpoint) (listening : Except String Unit) :
    Endpoint × Except EndpointError Unit :=
  if e.isInstalled then (e, .ok ())
  else match listening with
    | .error reason => (e, .error (.notListening reason))
    | .ok () =>
      if e.isTaken then (e, .error .recorderTaken) else ({ e with isInstalled := true }, .ok ())

/-- Once metrics are served it goes well again, whatever the port. -/
theorem install_of_isInstalled {e : Endpoint} (h : e.isInstalled = true)
    (listening : Except String Unit) : e.install listening = (e, .ok ()) := by
  simp [install, h]

end Endpoint

end FillFeed
