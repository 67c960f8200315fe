import OutOfBand.Settings.Config

/-! # Faults of an invocation

What can be wrong before an operation runs. Whatever happens later is told in a report.
-/
namespace OutOfBand.CommandLine

inductive Fault where
  /-- There is no device to talk to, nor a profile in the file at `path`. -/
  | noHost (path : String)
  | settings (error : SettingsError)
  /-- The options do not make a session. -/
  | validation (reason : String)
  | unknownModule (name : String) (available : List String)
deriving DecidableEq, Repr

namespace Fault

def message? : Fault → Option String
  | noHost _ => some "No target device configured"
  | settings error => error.message?
  | validation reason => some s!"Invalid options: {reason}"
  | unknownModule name _ => some s!"Unknown module '{name}'"

/-- Two for usage, three for configuration. -/
def exitCode : Fault → Nat
  | validation _ => 2
  | unknownModule .. => 2
  | noHost _ => 3
  | settings _ => 3

def code : Fault → String
  | noHost _ => "openmanage::no_host"
  | settings _ => "openmanage::config"
  | validation _ => "openmanage::validation"
  | unknownModule .. => "openmanage::unknown_module"

def help? : Fault → Option String
  | noHost path => some s!"Pass --hostname, set OPENMANAGE_HOSTNAME, or define a profile in {path}"
  | settings _ => some "Check the profile file and OPENMANAGE_* environment variables."
  | validation _ => none
  | unknownModule _ available =>
    let names := String.intercalate ", " available
    some s!"Supported modules: {names}"

end Fault

end OutOfBand.CommandLine
