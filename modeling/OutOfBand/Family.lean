/-! # Service families

The kinds of management service. The family fixes the root of the service's resources and the way in
which a session is made and ended.
-/
namespace OutOfBand

inductive Family where
  | redfish
  | ome
  | omevv
deriving DecidableEq, Repr

namespace Family

def name : Family → String
  | redfish => "redfish"
  | ome => "ome"
  | omevv => "omevv"

/-- The resource root that relative paths are joined with. -/
def root : Family → String
  | redfish => "/redfish/v1"
  | ome => "/api"
  | omevv => "/omevv/GatewayService/v1"

/-- Where sessions are created; none where every request carries the credentials. -/
def sessionPath? : Family → Option String
  | redfish => some "/redfish/v1/SessionService/Sessions"
  | ome => some "/api/SessionService/Sessions"
  | omevv => none

/-- The path that deletes the session with an id. -/
def sessionDeletePath? (id : String) : Family → Option String
  | redfish => some s!"/redfish/v1/SessionService/Sessions/{id}"
  | ome => some s!"/api/SessionService/Sessions('{id}')"
  | omevv => none

/-- What a login states besides user name and password. -/
def sessionType? : Family → Option String
  | ome => some "API"
  | _ => none

end Family

end OutOfBand
