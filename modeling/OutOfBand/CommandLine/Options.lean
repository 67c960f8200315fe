import OutOfBand.CommandLine.Parser
import OutOfBand.Document

/-! # Global options

The options that every command has. Of several levels the innermost one that states an option decides;
where none does the option's variable does.
-/
namespace OutOfBand.CommandLine

structure GlobalOptions where
  profile : Option String
  hostname : Option String
  port : Option Nat
  username : Option String
  password : Option String
  authToken : Option String
  noValidateCerts : Bool
  caPath : Option String
  timeout : Option Nat
  check : Bool
  output : OutputFormat
  verbose : Nat
deriving DecidableEq, Repr

def formatOf : String → OutputFormat
  | "json-compact" => .jsonCompact
  | "yaml" => .yaml
  | _ => .json

/-- The variable of a global option. -/
def envNameOf (name : String) : Option String :=
  (globalOptions.find? (fun option => option.long == name)).bind OptionRule.envName

/-- The value of a global option, the innermost level first. -/
def globalValue? (env : Environment) (levels : List Level) (name : String) : Option String :=
  (levels.reverse.findSome? (·.value? name)).or ((envNameOf name).bind env.lookup)

/-- How often the innermost level that has an option without a value states it. -/
def globalCount (levels : List Level) (name : String) : Nat :=
  (levels.reverse.findSome? (fun level => level.counts.lookup name)).getD 0

def GlobalOptions.ofLevels (env : Environment) (levels : List Level) : GlobalOptions :=
  let value := globalValue? env levels
  { profile := value "profile"
    hostname := value "hostname"
    port := (value "port").bind port?
    username := value "username"
    password := value "password"
    authToken := value "auth-token"
    noValidateCerts := globalCount levels "no-validate-certs" != 0
    caPath := value "ca-path"
    timeout := (value "timeout").bind whole64?
    check := globalCount levels "check" != 0
    output := ((value "output").map formatOf).getD .json
    verbose := globalCount levels "verbose" }

end OutOfBand.CommandLine
