import FillFeed.Address.Uri

/-!
# Addresses of the feed

`Address.feedRefusal` says why a connection to an address of the feed fails where there is no
network: the text is no address, the address names no host, its scheme is another one and there is
no port either, or nothing is reached.
-/

namespace FillFeed.Address

/-- The ports of the schemes of the feed. -/
def feedPort? : Option String → Option Nat
  | some "ws" => some 80
  | some "wss" => some 443
  | _ => none

/-- Whether a location is given by numbers, so that it need not be looked up. -/
def isNumeric (location : List Char) : Bool :=
  location.head? = some '[' ||
    (location.takeWhile (· ≠ ':')).all fun c => c = '.' || Text.isDigit c

/-- Why nothing is reached at a location. -/
def unreached (location : List Char) : String :=
  if isNumeric location then "Network is unreachable (os error 101)"
  else "failed to lookup address information: Temporary failure in name resolution"

/-- Why a connection to an address fails where there is no network. -/
def feedRefusal (url : String) : String :=
  match Uri.read url with
  | .error e => "HTTP format error: " ++ e.message
  | .ok u =>
    if u.authority = [] then "URL error: No host name in the URL"
    else if u.location = [] then "URL error: URL contains empty host name"
    else match u.port?.or (feedPort? u.scheme) with
      | none => "URL error: URL scheme not supported"
      | some _ => "IO error: " ++ unreached u.location

end FillFeed.Address
