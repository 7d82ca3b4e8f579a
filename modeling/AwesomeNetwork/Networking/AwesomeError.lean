import AwesomeNetwork.Foundation

/-! # Errors and methods of a request -/

namespace AwesomeNetwork

/-- `AwesomeError`, the errors that a completion is called with. -/
inductive AwesomeError where
  | invalidUrl
  | timeOut (message : Option String)
  | unknown (message : Option String)
  | cancelled (message : Option String)
  | generic (message : Option String)
  | noConnection (message : Option String)
  | unauthorized
  | invalidData
  | uploadFailed (message : Option String)
  | cacheRule (message : Option String)
  | parse (message : Option String)
deriving DecidableEq, Repr

/-- `URLMethod`. -/
inductive URLMethod where
  | GET | POST | DELETE | PUT | PATCH
deriving DecidableEq, Repr

/-- `rawValue`, which is the name of the case. -/
def URLMethod.rawValue : URLMethod → String
  | .GET => "GET"
  | .POST => "POST"
  | .DELETE => "DELETE"
  | .PUT => "PUT"
  | .PATCH => "PATCH"

end AwesomeNetwork
