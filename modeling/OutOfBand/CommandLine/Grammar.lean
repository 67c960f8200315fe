import OutOfBand.Operation

/-! # Grammar of the command line

Commands with their options and positional arguments. Global options may stand at every level of
commands.
-/
namespace OutOfBand.CommandLine

/-- What a value may be. -/
inductive ValueKind where
  | text
  | path
  /-- A whole number below `2 ^ 16`, read with a sign. -/
  | port
  /-- A whole number below `2 ^ 64`. -/
  | whole
  | choice (names : List String)
deriving DecidableEq, Repr

inductive OptionAction where
  | flag
  | count
  | value (kind : ValueKind)
  | help
  | version
deriving DecidableEq, Repr

structure OptionRule where
  long : String
  short : Option Char
  action : OptionAction
  /-- The variable that gives the value where the command line does not. -/
  envName : Option String
deriving DecidableEq, Repr

structure PositionalRule where
  name : String
  kind : ValueKind
deriving DecidableEq, Repr

inductive CommandRule where
  | mk (name : String) (options : List OptionRule) (positionals : List PositionalRule) (required : List String)
      (conflicts : List (String × String)) (commands : List CommandRule)

namespace CommandRule

def name : CommandRule → String
  | mk name .. => name

def options : CommandRule → List OptionRule
  | mk _ options .. => options

def positionals : CommandRule → List PositionalRule
  | mk _ _ positionals .. => positionals

/-- The options and positional arguments that have to be given. -/
def required : CommandRule → List String
  | mk _ _ _ required .. => required

/-- Options that cannot be given together. -/
def conflicts : CommandRule → List (String × String)
  | mk _ _ _ _ conflicts _ => conflicts

def commands : CommandRule → List CommandRule
  | mk _ _ _ _ _ commands => commands

def find? (rule : CommandRule) (name : String) : Option CommandRule :=
  rule.commands.find? (fun command => command.name == name)

def leaf (name : String) (options : List OptionRule) (required : List String) : CommandRule :=
  mk name options [] required [] []

def group (name : String) (commands : List CommandRule) : CommandRule := mk name [] [] [] [] commands

end CommandRule

def valueOption (long : String) (kind : ValueKind) : OptionRule := ⟨long, none, .value kind, none⟩

def outputNames : List String := ["json", "json-compact", "yaml"]

def stateNames : List String := ["enabled", "disabled"]

def shellNames : List String := ["bash", "elvish", "fish", "powershell", "zsh"]

/-- The options of every level. -/
def globalOptions : List OptionRule := [
  ⟨"profile", some 'p', .value .text, some "OPENMANAGE_PROFILE"⟩,
  ⟨"hostname", none, .value .text, some "OPENMANAGE_HOSTNAME"⟩,
  ⟨"port", none, .value .port, some "OPENMANAGE_PORT"⟩,
  ⟨"username", some 'u', .value .text, some "OPENMANAGE_USERNAME"⟩,
  ⟨"password", none, .value .text, some "OPENMANAGE_PASSWORD"⟩,
  ⟨"auth-token", none, .value .text, some "OPENMANAGE_AUTH_TOKEN"⟩,
  ⟨"no-validate-certs", some 'k', .flag, none⟩,
  ⟨"ca-path", none, .value .path, some "OPENMANAGE_CA_PATH"⟩,
  ⟨"timeout", none, .value .whole, some "OPENMANAGE_TIMEOUT"⟩,
  ⟨"check", none, .flag, none⟩,
  ⟨"output", some 'o', .value (.choice outputNames), some "OPENMANAGE_OUTPUT"⟩,
  ⟨"verbose", some 'v', .count, none⟩,
  ⟨"help", some 'h', .help, none⟩,
  ⟨"version", some 'V', .version, none⟩]

def jobId : OptionRule := valueOption "job-id" .text

/-- All the commands. -/
def root : CommandRule := .group "openmanage" [
  .group "lc-job" [.leaf "delete" [jobId] ["job-id"], .leaf "status" [jobId] ["job-id"]],
  .group "lc-job-queue" [.leaf "delete" [] []],
  .leaf "power" [valueOption "reset-type" (.choice ResetType.names), valueOption "resource-id" .text] ["reset-type"],
  .leaf "csior" [valueOption "state" (.choice stateNames)] ["state"],
  .mk "ome-job-info" [valueOption "job-id" .whole, valueOption "top" .whole, valueOption "skip" .whole,
    valueOption "filter" .text] [] [] [("top", "job-id"), ("skip", "job-id"), ("filter", "job-id")] [],
  .leaf "omevv-vcenter-info" [valueOption "vcenter-hostname" .text,
    ⟨"vcenter-uuid", none, .value .text, some "OPENMANAGE_VCENTER_UUID"⟩] [],
  .mk "module" [] [⟨"name", .text⟩, ⟨"args-file", .path⟩] ["name", "args-file"] [] [],
  .mk "completions" [] [⟨"shell", .choice shellNames⟩] ["shell"] [] []]

end OutOfBand.CommandLine
