import OutOfBand.CommandLine.Options

/-! # Commands

A command line that has been parsed: its global options and the one command that it names.
-/
namespace OutOfBand.CommandLine

inductive Command where
  /-- An operation on the device; an identifier of the vCenter may come with it. -/
  | device (operation : Operation) (vcenterUuid : Option String)
  /-- An automation module with its argument file. -/
  | automation (name file : String)
  | completions (shell : String)
deriving DecidableEq, Repr

structure Invocation where
  options : GlobalOptions
  command : Command
deriving DecidableEq, Repr

/-- A value that a level has to have. -/
def needed (level : Level) (name : String) : Parsed String :=
  match level.value? name with
  | some value => .ok value
  | none => .error .missingArgument

/-- A value that one of some readers has accepted already. -/
def readAs (reader : String → Option α) (value : String) : Parsed α :=
  match reader value with
  | some a => .ok a
  | none => .error .invalidValue

/-- The command of the innermost level. -/
def Command.ofLevel (env : Environment) (level : Level) : Parsed Command :=
  let whole (name : String) := (level.value? name).bind whole64?
  match level.path.tail with
  | ["lc-job", "delete"] => do .ok (.device (.deleteJob (← needed level "job-id")) none)
  | ["lc-job", "status"] => do .ok (.device (.jobStatus (← needed level "job-id")) none)
  | ["lc-job-queue", "delete"] => .ok (.device .clearQueue none)
  | ["power"] => do
    let reset ← readAs ResetType.ofName? (← needed level "reset-type")
    .ok (.device (.power reset (level.value? "resource-id")) none)
  | ["csior"] => do
    let state ← readAs InventoryState.parse? (← needed level "state")
    .ok (.device (.inventory state) none)
  | ["ome-job-info"] =>
    .ok (.device (.listing (whole "job-id") (some ⟨whole "top", whole "skip", level.value? "filter"⟩)) none)
  | ["omevv-vcenter-info"] =>
    let uuid := (level.value? "vcenter-uuid").or (env.lookup "OPENMANAGE_VCENTER_UUID")
    .ok (.device (.consoles (level.value? "vcenter-hostname")) uuid)
  | ["module"] => do .ok (.automation (← needed level "name") (← needed level "args-file"))
  | ["completions"] => do .ok (.completions (← needed level "shell"))
  | _ => .error .missingCommand

/-- Read the words behind the program's name. -/
def Invocation.parse (env : Environment) (words : List String) : Parsed Invocation := do
  let levels ← CommandLine.parse env words
  match levels.getLast? with
  | none => .error .missingCommand
  | some level => .ok ⟨.ofLevels env levels, ← Command.ofLevel env level⟩

end OutOfBand.CommandLine
