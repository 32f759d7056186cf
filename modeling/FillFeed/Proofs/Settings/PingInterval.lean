import Mathlib
import FillFeed.Client.Config
import FillFeed.Proofs.Settings.Acceptance

/-!
# The ping interval in the settings

Settings are accepted whatever number of seconds is configured between pings
(`Settings.ofLookup_update`), and the number reaches the plan of the client as it is
(`Settings.interval_of_ofLookup`).
-/

namespace FillFeed

/-- The variable for the seconds between pings. -/
def Settings.pingVariable : String := "KIS_PING_INTERVAL_SECS"

/-- The number of seconds between pings that the variables configure. -/
def Lookup.pingSeconds (lookup : Lookup) : Nat :=
  (lookup.whole Settings.pingVariable (twoPow 64)).getD 30

section

variable {lookup : Lookup} {settings : Settings}

/-- A required variable is read in the same way when another one is changed. -/
lemma Lookup.required_update {name other : String} (different : other ≠ name)
    (value : Option String) :
    Lookup.required (Function.update lookup name value) other = lookup.required other := by
  rw [required, Function.update_of_ne different, required]

/-- An optional variable is read in the same way when another one is changed. -/
lemma Lookup.optional_update {name other : String} (different : other ≠ name)
    (value : Option String) :
    Lookup.optional (Function.update lookup name value) other = lookup.optional other := by
  rw [optional, Function.update_of_ne different, optional]

/-- The time between pings is the number of seconds that the variables configure. -/
lemma Lookup.seconds_pingVariable (lookup : Lookup) :
    lookup.seconds Settings.pingVariable (.ofSecs 30) = .ofSecs lookup.pingSeconds := by
  rw [seconds, pingSeconds]
  cases lookup.whole Settings.pingVariable (twoPow 64) <;> rfl

namespace Settings

/-- Of the connection nothing but the time between pings changes with its variable. -/
lemma connectionOf_update (lookup : Lookup) (value : Option String) :
    connectionOf (Function.update lookup pingVariable value) =
      { connectionOf lookup with
        pingInterval :=
          .ofSecs (Lookup.pingSeconds (Function.update lookup pingVariable value)) } := by
  rw [← Lookup.seconds_pingVariable]
  simp (disch := decide) only [connectionOf, Lookup.seconds, Lookup.whole, pingVariable,
    Lookup.optional_update]
  rfl

/-- Whether settings are accepted does not depend on the variable for the ping interval, which
changes nothing in them but the interval. -/
theorem ofLookup_update (lookup : Lookup) (value : Option String) :
    ofLookup (Function.update lookup pingVariable value) =
      (ofLookup lookup).map fun settings =>
        { settings with
          connection.pingInterval :=
            .ofSecs (Lookup.pingSeconds (Function.update lookup pingVariable value)) } := by
  simp (disch := decide) only [ofLookup, connectionOf_update, Lookup.whole, Lookup.required_update,
    Lookup.optional_update]
  cases lookup.required "KIS_APP_KEY" with
  | error => rfl
  | ok appKey =>
    cases lookup.required "KIS_APP_SECRET" with
    | error => rfl
    | ok appSecret =>
      cases lookup.required "KIS_HTS_ID" with
      | error => rfl
      | ok subscriberKey =>
        by_cases attempts : (connectionOf lookup).maxAttempts = 0
        · simp [attempts, bind, Except.bind, Except.map]
        by_cases jitter : (connectionOf lookup).jitter.inUnitInterval = false
        · simp [attempts, jitter, bind, Except.bind, Except.map]
        · simp [attempts, jitter, bind, Except.bind, Except.map]

/-- Settings that are accepted have the connection that the variables configure. -/
lemma connection_of_ofLookup (accepted : ofLookup lookup = .ok settings) :
    settings.connection = connectionOf lookup := by
  obtain ⟨_, _, _, -, -, -, -, -, rfl⟩ := ofLookup_eq_ok_iff.1 accepted
  rfl

/-- The number of seconds between pings reaches the plan of the client as it is configured. -/
lemma interval_of_ofLookup (accepted : ofLookup lookup = .ok settings) :
    (Client.Config.ofSettings settings).keepalive.interval = .ofSecs lookup.pingSeconds := by
  change settings.connection.pingInterval = _
  rw [connection_of_ofLookup accepted]
  exact lookup.seconds_pingVariable

end Settings

end

end FillFeed
