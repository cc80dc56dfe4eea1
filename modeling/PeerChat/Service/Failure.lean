/-!
Failures of a call of the peer service.
-/

namespace PeerChat

/-- Why a call did not succeed. -/
inductive Failure
  /-- The request was not answered. -/
  | transport (reason : String)
  /-- The service refused the request. -/
  | status (path : String) (code : Nat)
  /-- The service answered with a body that cannot be read. -/
  | malformed (path reason : String)
  | invalidUrl (reason : String)
  /-- A file to be sent cannot be read. -/
  | unreadable (path reason : String)
  | fileTooLarge (size limit : Nat)
deriving DecidableEq, Repr

namespace Failure

def message : Failure → String
  | transport reason => "request failed: " ++ reason
  | status path code => path ++ " answered HTTP " ++ toString code
  | malformed path reason => "unexpected response from " ++ path ++ ": " ++ reason
  | invalidUrl reason => "invalid server url: " ++ reason
  | unreadable path reason => "cannot read " ++ path ++ ": " ++ reason
  | fileTooLarge size limit =>
    "file is " ++ toString size ++ " bytes, over the " ++ toString limit ++ " byte limit"

/-- Whether the failure tells that the service cannot be reached. A body that cannot be read came from a service
that is there. -/
def isUnreachable : Failure → Bool
  | transport _ => true
  | status _ _ => true
  | _ => false

end Failure

end PeerChat
