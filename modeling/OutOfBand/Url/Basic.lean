import OutOfBand.Url.Host

/-! # URLs

A URL in its parts, each already in its escaped form, and the text of the whole. Ports that are the
default of the scheme are left out.
-/
namespace OutOfBand

namespace Url

structure Authority where
  username : List Char
  password : Option (List Char)
  host : Host
  port : Option Nat
deriving DecidableEq, Repr

inductive Path where
  /-- The segments behind each slash. -/
  | segments (parts : List (List Char))
  /-- A text that is not taken apart. -/
  | plain (text : List Char)
deriving DecidableEq, Repr

end Url

structure Url where
  scheme : List Char
  authority : Option Url.Authority
  path : Url.Path
  query : Option (List Char)
  fragment : Option (List Char)
deriving DecidableEq, Repr

namespace Url

/-- The schemes of the web with their default ports. -/
def defaultPort? (scheme : List Char) : Option Nat :=
  [("http", 80), ("https", 443), ("ws", 80), ("wss", 443), ("ftp", 21)].lookup (String.ofList scheme)

def isFile (scheme : List Char) : Bool := scheme == "file".toList

def isSpecial (scheme : List Char) : Bool := (defaultPort? scheme).isSome || isFile scheme

def Authority.userInfo (a : Authority) : List Char :=
  let password := match a.password with
    | some password => ':' :: password
    | none => []
  if a.username.isEmpty && a.password.isNone then [] else a.username ++ password ++ ['@']

def Authority.chars (a : Authority) : List Char :=
  let port := match a.port with
    | some port => ':' :: Nat.toDigits 10 port
    | none => []
  a.userInfo ++ a.host.chars ++ port

def Path.chars : Path → List Char
  | .segments parts => parts.flatMap (fun part => '/' :: part)
  | .plain text => text

def queryChars (url : Url) : List Char :=
  match url.query with
  | some query => '?' :: query
  | none => []

/-- The whole URL, in `List Char`. -/
def chars (url : Url) : List Char :=
  let authority := match url.authority with
    | some authority => '/' :: '/' :: authority.chars
    | none => []
  let fragment := match url.fragment with
    | some fragment => '#' :: fragment
    | none => []
  url.scheme ++ ':' :: (authority ++ url.path.chars ++ url.queryChars ++ fragment)

def text (url : Url) : String := String.ofList url.chars

/-- Path and query, as a request names them. -/
def target (url : Url) : String := String.ofList (url.path.chars ++ url.queryChars)

def host? (url : Url) : Option Host := url.authority.map Authority.host

/-- The port, or the default one of the scheme. -/
def effectivePort? (url : Url) : Option Nat := (url.authority.bind Authority.port).or (defaultPort? url.scheme)

/-- User name and password, decoded, if either is there. -/
def userInfo? (url : Url) : Option (String × String) :=
  match url.authority with
  | none => none
  | some authority =>
    let username := percentDecode authority.username
    let password := percentDecode (authority.password.getD [])
    if !Text.isUtf8 username then none
    else if authority.username.isEmpty && (authority.password.isNone || !Text.isUtf8 password) then none
    else some (Text.decodeUtf8 username, if Text.isUtf8 password then Text.decodeUtf8 password else "")

/-- The same URL without user name and password. -/
def withoutUserInfo (url : Url) : Url :=
  { url with authority := url.authority.map (fun a => { a with username := [], password := none }) }

end Url

end OutOfBand
