import FillFeed.Text.Blank
import FillFeed.Numeric.Duration

/-!
# Credentials

An `ApprovalKey` is the secret that every subscription carries: a text with neither blanks at its
ends nor nothing in it. `Credentials` are what such keys are issued for. Neither shows its secret
when it is described.
-/

namespace FillFeed

/-- What is shown in place of a secret. -/
def redacted : String := "[REDACTED]"

/-- The key that a connection is authenticated with. -/
structure ApprovalKey where
  text : String
  trimmed : Text.trim text = text
  nonempty : text ≠ ""
  deriving DecidableEq

namespace ApprovalKey

/-- The key in a text, without the blanks around it; a blank text holds none. -/
def parse? (raw : String) : Option ApprovalKey :=
  if h : Text.trim raw = "" then none else some ⟨Text.trim raw, Text.trim_idem raw, h⟩

/-- How long the server accepts a key. -/
def validity : Duration := .ofSecs 86400

/-- How long a key is kept in the cache, which is less. -/
def cacheLifetime : Duration := .ofSecs 82800

/-- The description of a key. -/
def describe (_ : ApprovalKey) : String := "ApprovalKey(" ++ Text.quote redacted ++ ")"

/-- The text of a key holds this key. -/
theorem parse?_text (k : ApprovalKey) : parse? k.text = some k := by
  unfold parse?
  split
  · next h => exact absurd (k.trimmed ▸ h) k.nonempty
  · cases k
    simp_all

/-- A text holds no key exactly when it is blank. -/
theorem parse?_eq_none {raw : String} : parse? raw = none ↔ Text.trim raw = "" := by
  unfold parse?
  split <;> simp_all

end ApprovalKey

/-- The identity for which keys are issued. -/
structure Credentials where
  appKey : String
  appSecret : String
  deriving DecidableEq

/-- The description of credentials. -/
def Credentials.describe (_ : Credentials) : String :=
  "AppCredentials \x7b app_key: " ++ Text.quote redacted ++ ", app_secret: " ++
    Text.quote redacted ++ " \x7d"

end FillFeed
