import OutOfBand.Certificate
import OutOfBand.SessionError

/-! # Endpoints

One target device: where it is and how to talk to it. Hosts are trimmed, and an address of version 6
is put between brackets.
-/
namespace OutOfBand

inductive TlsMode where
  | system
  | customCa (path : String)
  | acceptInvalid
deriving DecidableEq, Repr

inductive Protocol where
  | https
  | http
deriving DecidableEq, Repr

def Protocol.scheme : Protocol → String
  | https => "https"
  | http => "http"

structure Endpoint where
  host : String
  port : Nat
  protocol : Protocol
  tls : TlsMode
  /-- In milliseconds. -/
  timeout : Nat
deriving DecidableEq, Repr

namespace Endpoint

/-- The host as it stands in a URL. -/
def normalizeHost (host : String) : Except SessionError String :=
  let host := Text.trim host
  if host.isEmpty then .error (.configuration "missing required argument: hostname")
  else if host.toList.contains '/' then
    .error (.configuration s!"hostname must not contain a scheme or path: {host}")
  else
    let bare := Text.dropEndWhile (· == ']') (host.toList.dropWhile (· == '['))
    match Url.ipv6? bare with
    | some _ => .ok (String.ofList ('[' :: (bare ++ [']'])))
    | none => .ok host

def new (host : String) (port : Nat) (tls : TlsMode) (timeout : Nat) : Except SessionError Endpoint := do
  let host ← normalizeHost host
  if port = 0 then .error (.configuration "port must be between 1 and 65535")
  else if timeout = 0 then .error (.configuration "timeout must be greater than zero")
  else .ok ⟨host, port, .https, tls, timeout⟩

/-- Scheme, host and port without a path. -/
def baseUrl (e : Endpoint) : Except SessionError Url :=
  match Url.read s!"{e.protocol.scheme}://{e.host}:{e.port}" with
  | .ok url => .ok url
  | .error fault => .error (.invalidUrl fault)

/-- The certificates to accept, read from the bundle that the endpoint names. -/
def trust (e : Endpoint) (files : FileTree) : Except SessionError Trust :=
  match e.tls with
  | .system => .ok .system
  | .acceptInvalid => .ok .anything
  | .customCa path =>
    match Bundle.load files path with
    | .ok certificates => .ok (.authorities certificates)
    | .error fault => .error (.tls fault.message)

end Endpoint

end OutOfBand
