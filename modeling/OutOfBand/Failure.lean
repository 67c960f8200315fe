import OutOfBand.Json.Basic
import OutOfBand.SessionError

/-! # Failures

Every way in which an operation can fail, sorted by what the caller should do about it.
-/
namespace OutOfBand

inductive Failure where
  /-- Malformed or contradictory input. -/
  | configuration (message : String)
  /-- The device rejects the credentials. -/
  | authentication (message : String)
  /-- The device was not reached. -/
  | connectivity (message : String)
  /-- A request was sent and no usable response came back. -/
  | transport (message : String)
  /-- The device answered and reported a failure; the payload hands its answer on. -/
  | remote (message : String) (payload : Object)
  /-- The current state could not be read. -/
  | indeterminate (message : String)

namespace Failure

def message : Failure → String
  | configuration message => message
  | authentication message => s!"Authentication failed: {message}"
  | connectivity message => s!"Unable to communicate with the device: {message}"
  | transport message => s!"Transport failure: {message}"
  | remote message _ => message
  | indeterminate message => s!"Unable to determine the current state: {message}"

/-- Whether the caller should treat the host as unreachable. -/
def isUnreachable : Failure → Bool
  | connectivity _ => true
  | transport _ => true
  | _ => false

def payload : Failure → Object
  | remote _ payload => payload
  | _ => []

/-- A failure on the device's side with one entry of payload. -/
def remoteWith (message key : String) (value : Json) : Failure := remote message [(key, value)]

def ofSessionError : SessionError → Failure
  | .configuration message => configuration message
  | .invalidUrl fault => configuration s!"Invalid URL: {fault.message}"
  | .tls message => configuration message
  | .authentication message => authentication message
  | .sessionCreate status message => remote (SessionError.sessionCreate status message).message []
  | .transport loss => if loss.isConnectivity then connectivity loss.detail else transport loss.detail
  | .timeout seconds => transport s!"The request timed out after {seconds}s"
  | .closed => configuration "The session is already closed"
  | .deserialization message body =>
    remoteWith s!"Unable to parse the response: {message}" "error_info" (.string body)

end Failure

end OutOfBand
