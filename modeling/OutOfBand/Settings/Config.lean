import OutOfBand.Connection
import OutOfBand.FileTree
import OutOfBand.Settings.Decode
import OutOfBand.Settings.Environment
import OutOfBand.Toml.Reader

/-! # Configuration

The profiles of devices and the defaults, from a file and the environment. A profile gives the options
of a connection; secrets in the environment go before those in the profile.
-/
namespace OutOfBand

/-- What can be wrong with a source of options. -/
inductive SettingsError where
  | validation (field reason : String)
  | profileNotFound (name path : String)
  /-- The argument file cannot be made out. -/
  | arguments (reason : String)
  /-- The configuration file is no document. -/
  | malformed
  | settings (path : String) (fault : Settings.Fault)
  | io (fault : FileFault)
deriving DecidableEq, Repr

/-- The message; the wording of what makes it malformed is left open. -/
def SettingsError.message? : SettingsError → Option String
  | validation field reason => some s!"invalid {field}: {reason}"
  | profileNotFound name path => some s!"profile '{name}' not found in {path}"
  | arguments reason => some s!"invalid module args: {reason}"
  | malformed => none
  | settings path fault => some s!"config loading failed: {fault.message path}"
  | io fault => some s!"IO error: {fault.message}"

/-- A named device. -/
structure Profile where
  hostname : String
  port : Option Nat
  username : Option String
  password : Option String
  authToken : Option String
  validateCerts : Option Bool
  caPath : Option String
  /-- In seconds. -/
  timeout : Option Nat
  vcenterUuid : Option String
deriving DecidableEq, Repr

/-- What holds where a profile says nothing. -/
structure Defaults where
  output : String
  timeout : Nat
  validateCerts : Bool
deriving DecidableEq, Repr

structure Config where
  defaultProfile : Option String
  defaults : Defaults
  profiles : Fields Profile
deriving DecidableEq, Repr

def Defaults.builtin : Defaults := ⟨"json", 30, true⟩

namespace Profile

open Setting

def shape : Shape :=
  ⟨"Profile", [.of "hostname" .required text, .of "port" .named (whole 16), .of "username" .named text,
    .of "password" .named text, .of "auth_token" .named text, .of "validate_certs" .named boolean,
    .of "ca_path" .named path, .of "timeout" .named (whole 64), .of "vcenter_uuid" .named text]⟩

def ofSetting (setting : Setting) : Settings.Result Profile := do
  let seen ← shape.read setting
  .ok ⟨(← field? seen "hostname" text).getD "", ← field? seen "port" (whole 16), ← field? seen "username" text,
    ← field? seen "password" text, ← field? seen "auth_token" text, ← field? seen "validate_certs" boolean,
    ← field? seen "ca_path" path, ← field? seen "timeout" (whole 64), ← field? seen "vcenter_uuid" text⟩

/-- The environment's password goes before the profile's. -/
def passwordIn (p : Profile) (env : Environment) : Option String := (env.lookup "OPENMANAGE_PASSWORD").or p.password

def authTokenIn (p : Profile) (env : Environment) : Option String := (env.lookup "OPENMANAGE_AUTH_TOKEN").or p.authToken

/-- The connection that a profile describes. -/
def connection (p : Profile) (defaults : Defaults) (env : Environment) : Except SettingsError Connection :=
  if Text.isBlankText p.hostname then .error (.validation "hostname" "must not be empty")
  else
    .ok {
      hostname := p.hostname
      port := p.port.getD Connection.defaultPort
      username := p.username
      password := p.passwordIn env
      authToken := p.authTokenIn env
      validateCerts := p.validateCerts.getD defaults.validateCerts
      caPath := p.caPath
      timeout := p.timeout.getD defaults.timeout
      checkMode := false
      vcenterUuid := p.vcenterUuid }

end Profile

namespace Defaults

open Setting

def shape : Shape :=
  ⟨"Defaults", [.of "output" .optional text, .of "timeout" .optional (whole 64),
    .of "validate_certs" .optional boolean]⟩

def ofSetting (setting : Setting) : Settings.Result Defaults := do
  let seen ← shape.read setting
  .ok ⟨(← field? seen "output" text).getD builtin.output, (← field? seen "timeout" (whole 64)).getD builtin.timeout,
    (← field? seen "validate_certs" boolean).getD builtin.validateCerts⟩

end Defaults

/-! ## The bundle of authorities -/

/-- The variables that may name a bundle, in order. -/
def bundleVariables : List String := ["REQUESTS_CA_BUNDLE", "CURL_CA_BUNDLE", "OMAM_CA_BUNDLE"]

/-- The first of the variables that is not blank. -/
def Environment.bundle? (env : Environment) : Option String :=
  (bundleVariables.filterMap env.lookup).find? (!Text.isBlankText ·)

/-- Where certificates are validated and no bundle is named, take the environment's. -/
def Connection.withBundle (c : Connection) (env : Environment) : Connection :=
  if c.validateCerts && c.caPath.isNone then { c with caPath := env.bundle? } else c

namespace Config

open Setting

/-- What holds before any file is read. -/
def builtinSetting : Setting :=
  let leaf (value : Leaf) : Setting := .leaf .builtin value
  .table .builtin [
    ("default_profile", leaf (.text "default")),
    ("defaults", .table .builtin [("output", leaf (.text Defaults.builtin.output)),
      ("timeout", leaf (.unsigned Defaults.builtin.timeout)),
      ("validate_certs", leaf (.truth Defaults.builtin.validateCerts))]),
    ("profiles", .table .builtin [])]

def shape : Shape :=
  ⟨"Config", [.of "default_profile" .named text, .of "defaults" .optional Defaults.ofSetting,
    .of "profiles" .optional (tableOf Profile.ofSetting)]⟩

def ofSetting (setting : Setting) : Settings.Result Config := do
  let seen ← shape.read setting
  .ok ⟨← field? seen "default_profile" text,
    (← field? seen "defaults" Defaults.ofSetting).getD Defaults.builtin,
    (← field? seen "profiles" (tableOf Profile.ofSetting)).getD []⟩

/-- The settings of the configuration file. A missing file has none. -/
def fileSetting (files : FileTree) (path : String) : Except SettingsError Setting :=
  match files.readText path with
  | .error .invalidText => .error .malformed
  | .error _ => .ok (.table .file [])
  | .ok text =>
    match Toml.read? text with
    | none => .error .malformed
    | some entries => .ok (.table .file (Setting.ofEntries entries))

/-- The configuration of the file at `path` and the environment. -/
def loadFrom (path : String) (files : FileTree) (env : Environment) : Except SettingsError Config := do
  let fromFile ← fileSetting files path
  let merged := (builtinSetting.merge fromFile).merge (Settings.ofEnvironment env)
  (ofSetting merged).mapError (SettingsError.settings path)

def load (files : FileTree) (env : Environment) : Except SettingsError Config := loadFrom env.configPath files env

/-- The profile of a name, or of the default name. -/
def profile (c : Config) (name : Option String) (path : String) : Except SettingsError (String × Profile) :=
  let name := (name.or c.defaultProfile).getD "default"
  match c.profiles.get? name with
  | some profile => .ok (name, profile)
  | none => .error (.profileNotFound name path)

end Config

end OutOfBand
