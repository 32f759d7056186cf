import FillFeed.Address.Uri
import FillFeed.Address.Url

/-!
# Addresses of the service that issues keys

`Address.issuer` is where keys are asked for, and `Address.issuerRefusal` says why a request to an
address fails where there is no network: no request can be built for it, or it cannot be sent.
-/

namespace FillFeed.Address

/-- The address at which keys are asked for, below a base address. -/
def issuer (base : String) : String :=
  String.ofList (base.toList.reverse.dropWhile (· = '/')).reverse ++ "/oauth2/Approval"

/-- Whether a request can be sent to a location: over the web, with an address in plain form. -/
def isRequestable (u : Url) : Bool :=
  (u.scheme = "http" || u.scheme = "https") &&
    match Uri.read u.text with
    | .ok _ => true
    | .error _ => false

/-- Why a request to an address fails where there is no network. The address is told in its one
form, without a user. -/
def issuerRefusal (url : String) : String :=
  match Url.read? url with
  | none => "builder error"
  | some u =>
    let u := u.withoutUser
    (if isRequestable u then "error sending request for url (" else "builder error for url (") ++
      u.text ++ ")"

end FillFeed.Address
