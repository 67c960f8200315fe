import OutOfBand.Failure
import OutOfBand.Json.Decode
import OutOfBand.Session.Basic

/-! # Connection options

The options that say which device to talk to and how, whatever source they come from. Options have
spellings of older kinds besides their own names.
-/
namespace OutOfBand

structure Connection where
  hostname : String
  port : Nat
  username : Option String
  password : Option String
  authToken : Option String
  validateCerts : Bool
  caPath : Option String
  /-- Of one request, in seconds. -/
  timeout : Nat
  checkMode : Bool
  vcenterUuid : Option String
deriving DecidableEq, Repr

namespace Connection

def defaultPort : Nat := 443

def defaultTimeout : Nat := 30

/-- Every option but the host at its default. -/
def new (hostname : String) : Connection :=
  ⟨hostname, defaultPort, none, none, none, true, none, defaultTimeout, false, none⟩

/-- Without validation of certificates no bundle matters. -/
def tlsMode (c : Connection) : TlsMode :=
  if c.validateCerts then
    match c.caPath with
    | some path => .customCa path
    | none => .system
  else .acceptInvalid

def credentials (c : Connection) : Except Failure Credentials :=
  (Credentials.ofParts c.username c.password c.authToken).mapError Failure.ofSessionError

def endpoint (c : Connection) : Except Failure Endpoint :=
  (Endpoint.new c.hostname c.port c.tlsMode (c.timeout * 1000)).mapError Failure.ofSessionError

def sessionConfig (c : Connection) (family : Family) : Except Failure SessionConfig := do
  let endpoint ← c.endpoint
  let credentials ← c.credentials
  .ok ⟨endpoint, credentials, family, c.vcenterUuid⟩

/-! ## Reading -/

def shape : RecordShape :=
  ⟨"ModuleParams", [
    .of "hostname" ["idrac_ip", "baseuri"] .required Json.text,
    .of "port" ["idrac_port"] .optional (Json.unsigned 16),
    .of "username" ["idrac_user", "vcenter_username"] .optional (Json.optional Json.text),
    .of "password" ["idrac_password", "idrac_pwd", "vcenter_password"] .optional (Json.optional Json.text),
    .of "auth_token" ["x_auth_token"] .optional (Json.optional Json.text),
    .of "validate_certs" [] .optional Json.boolean,
    .of "ca_path" [] .optional (Json.optional Json.path),
    .of "timeout" [] .optional (Json.unsigned 64),
    .of "check_mode" ["_ansible_check_mode"] .optional Json.boolean,
    .of "vcenter_uuid" [] .optional (Json.optional Json.text)]⟩

def decode (value : Json) : Decoded Connection := do
  let seen ← shape.decode value
  let optionalText (name : String) := fieldOr seen name (Json.optional Json.text) none
  .ok {
    hostname := ← fieldOr seen "hostname" Json.text ""
    port := ← fieldOr seen "port" (Json.unsigned 16) defaultPort
    username := ← optionalText "username"
    password := ← optionalText "password"
    authToken := ← optionalText "auth_token"
    validateCerts := ← fieldOr seen "validate_certs" Json.boolean true
    caPath := ← fieldOr seen "ca_path" (Json.optional Json.path) none
    timeout := ← fieldOr seen "timeout" (Json.unsigned 64) defaultTimeout
    checkMode := ← fieldOr seen "check_mode" Json.boolean false
    vcenterUuid := ← optionalText "vcenter_uuid" }

end Connection

end OutOfBand
