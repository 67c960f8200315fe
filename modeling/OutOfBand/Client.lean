import OutOfBand.Url.Reader

/-! # The client

What a session leaves to the library that carries its requests: which URLs can be sent to, which
authorities are trusted without being named, and how a request goes on when a reply redirects it. A
session configures none of this, so what holds of sessions holds of them with every client.
-/
namespace OutOfBand

/-- How a request goes on to where it is redirected. -/
inductive Onward where
  | whole
  | withoutBody
  /-- As a `GET` without a body. -/
  | asGet
deriving DecidableEq, Repr

class Client where
  /-- The authorities that need not be named. -/
  roots : List (List UInt8)
  /-- Whether a request can go to the URL. -/
  takes : Url → Bool
  /-- How often one request is redirected at most. -/
  hopLimit : Nat
  /-- Where a location leads from a URL. -/
  locate : Url → String → Option Url
  onward : (method : String) → (status : Nat) → Onward
  /-- Whether a header does not go along from one URL to another. -/
  leavesOut : (source target : Url) → (header : String) → Bool

namespace Client

/-- The longest URL that fits into a request. -/
def urlLimit : Nat := 65534

/-- Characters that a host may have and a request may not. -/
def isForeign (c : Char) : Bool := ['"', '{', '}', '\x60'].contains c

def credentialHeaders : List String :=
  ["authorization", "cookie", "cookie2", "proxy-authorization", "www-authenticate"]

/-- A client as it comes, on a system that trusts no authority of its own. Credentials do not go along
to another host or port. -/
instance standard : Client where
  roots := []
  takes url := url.chars.length ≤ urlLimit && !((url.authority.map Url.Authority.chars).getD []).any isForeign
  hopLimit := 10
  locate url location := (url.join location).toOption
  onward method status :=
    if status == 307 || status == 308 then .whole else if method == "HEAD" then .withoutBody else .asGet
  leavesOut source target header :=
    (source.host? != target.host? || source.effectivePort? != target.effectivePort?) && credentialHeaders.contains header

end Client

end OutOfBand
