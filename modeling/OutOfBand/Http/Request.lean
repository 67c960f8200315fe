import OutOfBand.Http.Header
import OutOfBand.Json.Basic
import OutOfBand.Url.Query
import OutOfBand.Url.Reader

/-! # Requests

What is asked of a service, as a value: a method, a path below the root of the service or from the
root of the host, parameters, headers and an optional body. Resolved against a base URL it becomes a
request with a full URL, and that URL stays on the host of the base.
-/
namespace OutOfBand.Http

structure RequestSpec where
  method : String
  path : String
  query : Fields String
  body : Option Json
  headers : Fields String
  /-- In milliseconds, in place of the timeout of the session. -/
  timeout : Option Nat

/-- A request as it goes to the wire. -/
structure Request where
  method : String
  url : Url
  headers : Headers
  body : Option Json

namespace RequestSpec

def new (method path : String) : RequestSpec := ⟨method, path, [], none, [], none⟩

def get (path : String) : RequestSpec := new "GET" path

def post (path : String) : RequestSpec := new "POST" path

def patch (path : String) : RequestSpec := new "PATCH" path

/-- A repeated key replaces the earlier value. -/
def withQuery (spec : RequestSpec) (key value : String) : RequestSpec :=
  { spec with query := spec.query.insert key value }

def withBody (spec : RequestSpec) (body : Json) : RequestSpec := { spec with body := some body }

def withHeader (spec : RequestSpec) (name value : String) : RequestSpec :=
  { spec with headers := spec.headers.insert name value }

def withTimeout (spec : RequestSpec) (milliseconds : Nat) : RequestSpec :=
  { spec with timeout := some milliseconds }

end RequestSpec

/-- Whether a path is the root, or goes on from it with a slash or a question mark. -/
def isUnderRoot (root path : List Char) : Bool :=
  root.isPrefixOf path &&
    match path.drop root.length with
    | [] => true
    | c :: _ => c == '/' || c == '?'

/-- The path from the root of the host. -/
def fullPath (root path : List Char) : List Char :=
  let path := Text.trimChars path
  let relative := path.dropWhile (· == '/')
  if isUnderRoot root path then path
  else if relative.isEmpty then root
  else root ++ '/' :: relative

/-- The URL of a request: its path joined with the base, its parameters behind a query of the path. -/
def RequestSpec.resolve (spec : RequestSpec) (base : Url) (root : String) : Except Url.Fault Url := do
  let url ← Url.readChars (some base) (fullPath root.toList spec.path.toList)
  .ok (url.addParameters spec.query)

end OutOfBand.Http
