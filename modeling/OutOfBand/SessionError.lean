import OutOfBand.Device
import OutOfBand.Http.Envelope

/-! # Session errors

What can go wrong between a session and a device. A reply with an error status is none of these: it
comes back as a reply.
-/
namespace OutOfBand

inductive SessionError where
  /-- The endpoint or the credentials are missing or contradictory. -/
  | configuration (message : String)
  | invalidUrl (fault : Url.Fault)
  /-- The bundle of authorities is unusable. -/
  | tls (message : String)
  | authentication (message : String)
  | sessionCreate (status : Nat) (message : String)
  | transport (loss : Loss)
  | timeout (seconds : Nat)
  | closed
  | deserialization (message body : String)
deriving DecidableEq, Repr

namespace SessionError

def message : SessionError → String
  | configuration message => s!"Invalid configuration: {message}"
  | invalidUrl fault => s!"Invalid URL: {fault.message}"
  | tls message => s!"TLS error: {message}"
  | authentication message => s!"Authentication failed: {message}"
  | sessionCreate status message => s!"Unable to create a session (HTTP {status}): {message}"
  | transport loss => s!"HTTP transport error: {loss.detail}"
  | timeout seconds => s!"Request timed out after {seconds}s"
  | closed => "Session is closed"
  | deserialization message _ => s!"Deserialization error: {message}"

/-- The device could not be reached at all. -/
def isConnectivity : SessionError → Bool
  | transport loss => loss.isConnectivity
  | _ => false

/-- The request was sent and no complete response arrived. -/
def isTransport : SessionError → Bool
  | transport loss => !loss.isConnectivity
  | timeout _ => true
  | _ => false

/-- The error stems from the caller's input. -/
def isConfiguration : SessionError → Bool
  | configuration _ => true
  | invalidUrl _ => true
  | tls _ => true
  | _ => false

/-- The error of a request without a complete response, under a timeout in milliseconds. -/
def ofLoss (timeout : Nat) : Loss → SessionError
  | .timedOut => SessionError.timeout (timeout / 1000)
  | loss => transport loss

end SessionError

/-- The body as a value of some type; where it is none, the error shows how the text begins. -/
def Http.Envelope.bodyAs (e : Http.Envelope) (reader : Json → Decoded α) : Except SessionError α :=
  (reader e.body).mapError (fun mismatch => .deserialization mismatch.message e.preview)

end OutOfBand
