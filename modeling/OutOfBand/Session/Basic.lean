import OutOfBand.Credentials
import OutOfBand.Endpoint
import OutOfBand.Family
import OutOfBand.Http.Envelope
import OutOfBand.Text.Base64

/-! # Sessions

A session belongs to one endpoint and one set of credentials. User name and password are exchanged for
a token where the family has sessions, and the session made on the device is deleted on closing. A
closed session sends nothing.
-/
namespace OutOfBand

/-- Everything needed to open a session. -/
structure SessionConfig where
  endpoint : Endpoint
  credentials : Credentials
  family : Family
  /-- Sent with every request to the vCenter integration. -/
  vcenterUuid : Option String
deriving DecidableEq, Repr

/-- What a session shows with every request. -/
inductive Authorization where
  | token (value : String)
  | basic (username password : String)
deriving DecidableEq, Repr

structure Session where
  trust : Trust
  base : Url
  family : Family
  authorization : Authorization
  /-- The session on the device, if this one made it and knows its id. -/
  remoteId : Option String
  vcenterUuid : Option String
  /-- In milliseconds. -/
  timeout : Nat
  isOpen : Bool

namespace Session

def tokenHeader : String := "x-auth-token"

def vcenterHeader : String := "x_omivv-api-vcenter-identifier"

def jsonType : String := "application/json"

def userAgent : String := "openmanage/0.1.0"

/-- The header value of basic authorization. -/
def basicValue (username password : String) : String :=
  "Basic " ++ String.ofList (Text.base64Encode (Text.encodeUtf8 s!"{username}:{password}"))

def authorizationHeader : Authorization → String × String
  | .token value => (tokenHeader, value)
  | .basic username password => ("authorization", basicValue username password)

/-- A user name in the URL itself is shown as well. -/
def urlHeaders (url : Url) : List (String × String) :=
  match url.userInfo? with
  | some (username, password) => [("authorization", basicValue username password)]
  | none => []

/-- A request with its headers, and with those that every request has. One that HTTP does not allow
makes the request unsendable. -/
def compose (method : String) (url : Url) (headers : List (String × String)) (body : Option Json) :
    Except Loss Http.Request :=
  let headers := urlHeaders url ++ headers
  if headers.all (fun header => Http.isName header.1 && Http.isValue header.2) then
    let sent := headers.foldl (fun sent header => Http.Headers.append sent header.1 header.2) []
    let sent := if body.isSome then sent.default "content-type" jsonType else sent
    .ok ⟨method, url.withoutUserInfo, (sent.default "user-agent" userAgent).default "accept" "*/*", body⟩
  else .error .unsendable

/-- Send a request, if it can be sent, and read its reply to the end. -/
def exchange (trust : Trust) (timeout : Nat) (request : Except Loss Http.Request) (wire : Wire) :
    Except SessionError Http.Envelope × Wire :=
  match request with
  | .error loss => (.error (.ofLoss timeout loss), wire)
  | .ok request =>
    match wire.send trust request with
    | (.error loss, wire) => (.error (.ofLoss timeout loss), wire)
    | (.ok response, wire) =>
      (.ok (.ofReply response.status response.headers (Text.decodeUtf8 response.body)), wire)

/-! ## Opening -/

def checkedToken (token : String) : Except SessionError Authorization :=
  if Http.isValue token then .ok (.token token)
  else .error (.configuration "auth token contains characters not allowed in an HTTP header")

def loginBody (family : Family) (username password : String) : Json :=
  .ofEntries ([("UserName", .string username), ("Password", .string password)] ++
    match family.sessionType? with
    | some kind => [("SessionType", .string kind)]
    | none => [])

/-- The id that a login reply gives the session: in its body, or at the end of its location. -/
def createdId? (reply : Http.Envelope) : Option String :=
  match reply.body.member? "Id" with
  | some (.string id) => some id
  | some (.number id) => some id.render
  | _ => ((reply.headers.text? "location").map Text.lastSegment).filter (!·.isEmpty)

/-- The token and the id in a login reply. -/
def loginResult (reply : Http.Envelope) : Except SessionError (String × Option String) :=
  if reply.status = 401 ∨ reply.status = 403 then
    .error (.authentication s!"HTTP {reply.status}: {reply.diagnostic}")
  else if !reply.isSuccess then .error (.sessionCreate reply.status reply.diagnostic)
  else
    match (reply.headers.text? tokenHeader).filter (!·.isEmpty) with
    | none => .error (.authentication "session created without an X-Auth-Token header")
    | some token => .ok (token, createdId? reply)

/-- Create a session on the device. -/
def login (trust : Trust) (timeout : Nat) (base : Url) (family : Family) (path username password : String)
    (wire : Wire) : Except SessionError (String × Option String) × Wire :=
  match base.join path with
  | .error fault => (.error (.invalidUrl fault), wire)
  | .ok url =>
    let request := compose "POST" url [("accept", jsonType)] (some (loginBody family username password))
    match exchange trust timeout request wire with
    | (.error e, wire) => (.error e, wire)
    | (.ok reply, wire) => (loginResult reply, wire)

/-- What the session will show, and the session on the device behind it. -/
def authorize (trust : Trust) (base : Url) (config : SessionConfig) (wire : Wire) :
    Except SessionError (Authorization × Option String) × Wire :=
  match config.credentials, config.family.sessionPath? with
  | .token token, _ => ((checkedToken token).map (fun authorization => (authorization, none)), wire)
  | .basic username password, none => (.ok (.basic username password, none), wire)
  | .basic username password, some path =>
    match login trust config.endpoint.timeout base config.family path username password wire with
    | (.error e, wire) => (.error e, wire)
    | (.ok (token, id), wire) => ((checkedToken token).map (fun authorization => (authorization, id)), wire)

/-- Only the vCenter integration is told an identifier, and no empty one. -/
def identifier (config : SessionConfig) : Option String :=
  match config.family with
  | .omevv => config.vcenterUuid.filter (!·.isEmpty)
  | _ => none

/-- Connect and authenticate. Nothing is sent unless a session has to be made on the device. -/
def «open» (files : FileTree) (config : SessionConfig) (wire : Wire) : Except SessionError Session × Wire :=
  match config.endpoint.trust files, config.endpoint.baseUrl with
  | .error e, _ => (.error e, wire)
  | .ok _, .error e => (.error e, wire)
  | .ok trust, .ok base =>
    match authorize trust base config wire with
    | (.error e, wire) => (.error e, wire)
    | (.ok (authorization, remoteId), wire) =>
      (.ok ⟨trust, base, config.family, authorization, remoteId, identifier config, config.endpoint.timeout, true⟩, wire)

/-! ## Use -/

/-- The headers of a request before the client's own. -/
def headersFor (s : Session) (spec : Http.RequestSpec) : List (String × String) :=
  authorizationHeader s.authorization :: ("accept", jsonType) ::
    ((match s.vcenterUuid with
      | some uuid => [(vcenterHeader, uuid)]
      | none => []) ++ spec.headers)

/-- Send one request. A reply with an error status is still a reply. -/
def execute (s : Session) (spec : Http.RequestSpec) (wire : Wire) : Except SessionError Http.Envelope × Wire :=
  if s.isOpen then
    match spec.resolve s.base s.family.root with
    | .error fault => (.error (.invalidUrl fault), wire)
    | .ok url =>
      exchange s.trust (spec.timeout.getD s.timeout) (compose spec.method url (s.headersFor spec) spec.body) wire
  else (.error .closed, wire)

/-- The request that deletes the session on the device, if there is one to delete. -/
def deleteRequest? (s : Session) : Option (Except Loss Http.Request) := do
  let id ← s.remoteId
  let path ← s.family.sessionDeletePath? id
  let url ← (s.base.join path).toOption
  some (compose "DELETE" url [authorizationHeader s.authorization] none)

/-- Release the session. A second time nothing happens, and no answer of the device matters. -/
def close (s : Session) (wire : Wire) : Session × Wire :=
  let closed := { s with isOpen := false, remoteId := none }
  if s.isOpen then
    match s.deleteRequest? with
    | some request => (closed, (exchange s.trust s.timeout request wire).2)
    | none => (closed, wire)
  else (s, wire)

def familyName : Family → String
  | .redfish => "Redfish"
  | .ome => "Ome"
  | .omevv => "Omevv"

/-- A description without secrets. -/
def describe (s : Session) : String :=
  let state := if s.isOpen then "Open" else "Closed"
  "Session \x7b base_url: " ++ Text.quoted s.base.text ++ ", family: " ++ familyName s.family ++ ", state: " ++
    state ++ ", remote_session: " ++ toString s.remoteId.isSome ++ ", .. \x7d"

end Session

end OutOfBand
