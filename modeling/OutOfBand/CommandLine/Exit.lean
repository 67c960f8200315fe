import OutOfBand.CommandLine.Run

/-! # Exits

A whole run of the program: from the words of its command line to its exit code and what it prints. The
one document of an operation goes to standard output, a fault to standard error.
-/
namespace OutOfBand.CommandLine

structure Exit where
  code : Nat
  output : String
  errorText : String
  /-- What was wrong, unless the command line itself was. -/
  fault : Option Fault

namespace Stop

def isError : Stop → Bool
  | help _ => false
  | version _ => false
  | _ => true

def message : Stop → String
  | help usage => usage
  | version name => s!"{name} 0.1.0\n"
  | helpInstead usage => usage
  | missingCommand => "error: a subcommand is required\n"
  | unknownCommand => "error: unrecognized subcommand\n"
  | unknownArgument => "error: unexpected argument\n"
  | invalidValue => "error: a value is missing or not one of the possible values\n"
  | refusedValue => "error: a value is not a number in its range\n"
  | unneededValue => "error: a value was given to an option that takes none\n"
  | conflict => "error: an argument cannot be used here or not more than once\n"
  | missingArgument => "error: a required argument was not provided\n"

/-- Usage errors go to standard error. -/
def exit (stop : Stop) : Exit :=
  if stop.isError then ⟨2, "", stop.message, none⟩ else ⟨0, stop.message, "", none⟩

end Stop

/-- A fault as it is shown to the user. -/
def Fault.text (fault : Fault) : String :=
  let help := match fault.help? with
    | some help => s!"  help: {help}\n"
    | none => ""
  let message := fault.message?.getD "the configuration file cannot be parsed"
  s!"{fault.code}\n\n  x {message}\n{help}"

def Fault.exit (fault : Fault) : Exit := ⟨fault.exitCode, "", fault.text, some fault⟩

namespace Outcome

/-- The exit of an outcome: one if the document reports a failure. -/
def exit (format : OutputFormat) : Outcome → Exit
  | script shell => ⟨0, completionScript shell, "", none⟩
  | document report => ⟨if report.isFailed then 1 else 0, report.printed format, "", none⟩
  | fault f => f.exit

end Outcome

/-- Run the program on the words behind its name. -/
def execute (words : List String) (files : FileTree) (env : Environment) (wire : Wire) : Exit × Wire :=
  match Invocation.parse env words with
  | .error stop => (stop.exit, wire)
  | .ok invocation =>
    match invocation.run files env wire with
    | (outcome, wire) => (outcome.exit invocation.options.output, wire)

/-- The files that a run may read, as far as those that are known tell. -/
def wantedFiles (words : List String) (files : FileTree) (env : Environment) : List String :=
  match Invocation.parse env words with
  | .error _ => []
  | .ok invocation =>
    match invocation.command with
    | .completions _ => []
    | .automation _ path =>
      path :: match ArgumentFile.load files path with
        | .ok file => (file.connection.withBundle env).caPath.toList
        | .error _ => []
    | .device .. =>
      env.configPath :: match invocation.options.connection files env with
        | .ok c => c.caPath.toList
        | .error _ => []

end OutOfBand.CommandLine
