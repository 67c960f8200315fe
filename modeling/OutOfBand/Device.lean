import OutOfBand.Http.Redirect
import OutOfBand.Http.Status

/-! # Devices

A device as seen from the network: the address at which it listens, whether it speaks TLS, and the
replies to come, one for each request. A reply may be lost, and a device that listens may still refuse
a single connection. A reply may also lead elsewhere, on the device or on the network around it, and
then the client follows. Every attempt to send is logged together with its fate.
-/
namespace OutOfBand

/-- How a device treats one request. -/
inductive Reply where
  | answer (status : Nat) (headers : Http.Headers) (body : List UInt8)
  /-- The response ends early, in its body. -/
  | cut (status : Nat) (headers : Http.Headers)
  /-- The body of the response does not come to an end. -/
  | stalled (status : Nat) (headers : Http.Headers)
  /-- The connection closes without a response. -/
  | dropped
  /-- The response ends before its body. -/
  | truncated
  /-- No response comes. -/
  | silent
  /-- No connection comes about. -/
  | refused
  /-- The connection cannot be secured. -/
  | handshake

/-- Why there is no complete response. -/
inductive Loss where
  | refused
  | handshake
  | dropped
  | truncated
  | timedOut
  /-- The redirects are too many, or lead to nothing that speaks HTTP. -/
  | misdirected
  | unsendable
deriving DecidableEq, Repr

/-- The device was not reached at all. -/
def Loss.isConnectivity : Loss → Bool
  | .refused => true
  | .handshake => true
  | _ => false

def Loss.detail : Loss → String
  | .refused => "connection refused"
  | .handshake => "TLS handshake failed"
  | .dropped => "connection closed before the response"
  | .truncated => "connection closed before the end of the response"
  | .timedOut => "no response in time"
  | .misdirected => "redirected too often or to no web address"
  | .unsendable => "the request cannot be sent"

structure Device where
  host : Url.Host
  port : Nat
  listening : Bool
  /-- The authority behind the device's certificate, if it speaks TLS. -/
  authority : Option (List UInt8)
  replies : List Reply

/-- What else there is on the network. -/
class Network where
  /-- Whether something listens at an address, and the authority behind its certificate if it speaks TLS. -/
  listener? : Url.Host → Nat → Option (Option (List UInt8))

/-- Nothing listens anywhere. -/
instance Network.empty : Network := ⟨fun _ _ => none⟩

/-- Which certificates are accepted besides those of the client's own authorities. -/
inductive Trust where
  | system
  | anything
  | authorities (certificates : List (List UInt8))
deriving DecidableEq

def Trust.accepts (roots : List (List UInt8)) : Trust → List UInt8 → Bool
  | .system, authority => roots.contains authority
  | .anything, _ => true
  | .authorities certificates, authority => certificates.contains authority || roots.contains authority

structure Response where
  status : Nat
  headers : Http.Headers
  body : List UInt8

/-- A request that the client has made of another one on being redirected. -/
structure Hop where
  request : Http.Request
  received : Bool

/-- One attempt to send a request, with all that came of it. -/
structure Attempt where
  request : Http.Request
  /-- Whether the request has been read by what listens at its address. -/
  received : Bool
  /-- The status of a complete response, or why there is none. Where the client was redirected, this is
  the fate of the last request. -/
  fate : Except Loss Nat
  hops : List Hop
  follows : ∀ hop ∈ hops, hop.request.Follows request

/-- A device, the client that talks to it, the network around it, and all that has been attempted. -/
structure Wire where
  device : Device
  attempts : List Attempt
  [client : Client]
  [network : Network]

namespace Device

def listensAt (device : Device) (url : Url) : Bool :=
  device.listening && url.host? == some device.host && url.effectivePort? == some device.port

/-- The reply that is due, and the replies after it. When none are left, nothing is found. -/
def next (device : Device) : Reply × Device :=
  match device.replies with
  | [] => (.answer 404 [] [], device)
  | reply :: rest => (reply, { device with replies := rest })

end Device

/-- Responses to this method, or with this status, have no body. -/
def carriesBody (method : String) (status : Nat) : Bool := method != "HEAD" && !Http.isBodiless status

namespace Reply

/-- Status and headers, where the response gets as far as that. -/
def head? : Reply → Option (Nat × Http.Headers)
  | answer status headers _ => some (status, headers.trimmed)
  | cut status headers => some (status, headers.trimmed)
  | stalled status headers => some (status, headers.trimmed)
  | _ => none

def response (method : String) : Reply → Except Loss Response
  | answer status headers body =>
    .ok ⟨status, headers.trimmed, if carriesBody method status then body else []⟩
  | cut status headers => if carriesBody method status then .error .truncated else .ok ⟨status, headers.trimmed, []⟩
  | stalled status headers => if carriesBody method status then .error .timedOut else .ok ⟨status, headers.trimmed, []⟩
  | dropped => .error .dropped
  | truncated => .error .truncated
  | silent => .error .timedOut
  | refused => .error .refused
  | handshake => .error .handshake

/-- Whether the request that is treated so has been read. -/
def isReached : Reply → Bool
  | refused => false
  | handshake => false
  | _ => true

/-- Where a reply to a request leads, and its status. -/
def lead? (client : Client) (url : Url) (reply : Reply) : Option (Nat × Url) := do
  let (status, headers) ← reply.head?
  guard (Http.isRedirect status)
  let location ← List.lookup "location" headers
  let target ← client.locate url location
  guard (client.takes target)
  some (status, target)

end Reply

/-- What came of a request: the response to it or to the last of the requests made of it. -/
structure Outcome (first : Http.Request) where
  response : Except Loss Response
  received : Bool
  hops : List Hop
  follows : ∀ hop ∈ hops, hop.request.Follows first

namespace Outcome

variable {first next : Http.Request}

/-- What came of a request that was not redirected. -/
def direct (response : Except Loss Response) (received : Bool) : Outcome first :=
  ⟨response, received, [], fun _ h => absurd h List.not_mem_nil⟩

/-- What came of a request that was redirected, from what came of the request made of it. -/
def redirected (outcome : Outcome next) (h : next.Follows first) : Outcome first :=
  ⟨outcome.response, true, ⟨next, outcome.received⟩ :: outcome.hops,
    List.forall_mem_cons.mpr ⟨h, fun hop hhop => (outcome.follows hop hhop).trans h⟩⟩

end Outcome

namespace Wire

def log (wire : Wire) (attempt : Attempt) : Wire := { wire with attempts := wire.attempts ++ [attempt] }

/-- What listens where a URL leads: the authority behind its certificate, if it speaks TLS. -/
def listener? (wire : Wire) (url : Url) : Option (Option (List UInt8)) :=
  if wire.device.listensAt url then some wire.device.authority
  else do wire.network.listener? (← url.host?) (← url.effectivePort?)

/-- Why no connection comes about, if none does. -/
def obstacle? (wire : Wire) (trust : Trust) (url : Url) : Option Loss :=
  let isSecure := url.scheme == "https".toList
  if !isSecure && url.scheme != "http".toList then some .misdirected
  else
    match wire.listener? url, isSecure with
    | none, _ => some .refused
    | some (some authority), true => if trust.accepts wire.client.roots authority then none else some .handshake
    | some none, true => some .handshake
    | some (some _), false => some .dropped
    | some none, false => none

/-- Take the reply that is due. -/
def take (wire : Wire) : Reply × Wire :=
  (wire.device.next.1, { wire with device := wire.device.next.2 })

/-- Send a request, and go on for as long as the replies lead elsewhere. -/
def pursue (trust : Trust) : (hopLimit : Nat) → (request : Http.Request) → Wire → Outcome request × Wire
  | hopLimit, request, wire =>
    match wire.obstacle? trust request.url with
    | some loss => (.direct (.error loss) false, wire)
    | none =>
      let (reply, wire) := wire.take
      match reply.lead? wire.client request.url, hopLimit with
      | none, _ => (.direct (reply.response request.method) reply.isReached, wire)
      | some _, 0 => (.direct (.error .misdirected) true, wire)
      | some (status, target), hopLimit + 1 =>
        let (outcome, wire) := pursue trust hopLimit (request.onward wire.client status target) wire
        (outcome.redirected (request.onward_follows _ status target), wire)

/-- Send a request and wait for its response. A request whose URL the client does not take is not
attempted. -/
def send (trust : Trust) (request : Http.Request) (wire : Wire) : Except Loss Response × Wire :=
  if wire.client.takes request.url then
    let (outcome, later) := pursue trust wire.client.hopLimit request wire
    let status := outcome.response.map Response.status
    (outcome.response, later.log ⟨request, outcome.received, status, outcome.hops, outcome.follows⟩)
  else (.error .unsendable, wire)

end Wire

/-- The requests of an attempt that have been read, in order. -/
def Attempt.requests (a : Attempt) : List Http.Request :=
  (if a.received then [a.request] else []) ++ (a.hops.filter Hop.received).map Hop.request

/-- The requests that have been read, in order. -/
def Wire.requests (wire : Wire) : List Http.Request := wire.attempts.flatMap Attempt.requests

end OutOfBand
