import OutOfBand.ArgumentFile
import OutOfBand.CommandLine.Layers

/-! # Running an invocation

An invocation that has been parsed ends in one document, in a completion script or in a fault. A fault
comes before anything is sent. Automation modules have their arguments in a file, and what is wrong with
these is told in a report.
-/
namespace OutOfBand

/-- Run an operation on the device of a connection. Options that make no session are refused and
nothing is sent. -/
def Operation.perform (op : Operation) (c : Connection) (files : FileTree) (wire : Wire) :
    Except Failure Report × Wire :=
  match c.sessionConfig op.kind.family with
  | .error f => (.error f, wire)
  | .ok config =>
    match op.run c.checkMode files config wire with
    | (report, wire) => (.ok report, wire)

/-! ## Automation modules -/

namespace Automation

/-- The names of the modules. -/
def names : List String := ["idrac_lifecycle_controller_jobs", "dellemc_delete_lc_job",
  "dellemc_delete_lc_job_queue", "idrac_lifecycle_controller_job_status_info", "dellemc_get_lc_job_status",
  "redfish_powerstate", "dellemc_idrac_lc_attributes", "ome_job_info", "omevv_vcenter_info"]

/-- The operation behind a name. The module of all jobs deletes one if it is told which. -/
def kind? (name : String) (file : ArgumentFile) : Option OperationKind :=
  match name with
  | "idrac_lifecycle_controller_jobs" => some (if (file.get? "job_id").isSome then .deleteJob else .clearQueue)
  | "dellemc_delete_lc_job_queue" => some .clearQueue
  | "dellemc_delete_lc_job" => some .deleteJob
  | "idrac_lifecycle_controller_job_status_info" => some .jobStatus
  | "dellemc_get_lc_job_status" => some .jobStatus
  | "redfish_powerstate" => some .power
  | "dellemc_idrac_lc_attributes" => some .inventory
  | "ome_job_info" => some .listing
  | "omevv_vcenter_info" => some .consoles
  | _ => none

/-- The report of a source of options that is in error. -/
def refusal (e : SettingsError) : Report := .failed (e.message?.getD "")

/-- Run an operation with the options of an argument file. -/
def runKind (kind : OperationKind) (file : ArgumentFile) (files : FileTree) (env : Environment) (wire : Wire) :
    Report × Wire :=
  match file.operation kind with
  | .error e => (refusal e, wire)
  | .ok op =>
    match op.perform (file.connection.withBundle env) files wire with
    | (.error f, wire) => (.ofFailure f, wire)
    | (.ok report, wire) => (report, wire)

/-- Run a module on an argument file. -/
def run (name path : String) (files : FileTree) (env : Environment) (wire : Wire) :
    Except CommandLine.Fault Report × Wire :=
  match ArgumentFile.load files path with
  | .error (.arguments reason) => (.ok (refusal (.arguments reason)), wire)
  | .error e => (.error (.settings e), wire)
  | .ok file =>
    match kind? name file with
    | none => (.error (.unknownModule name names), wire)
    | some kind =>
      match runKind kind file files env wire with
      | (report, wire) => (.ok report, wire)

end Automation

namespace CommandLine

/-- Run an operation with the options of the command line. -/
def runDevice (op : Operation) (uuid : Option String) (options : GlobalOptions) (files : FileTree)
    (env : Environment) (wire : Wire) : Except Fault Report × Wire :=
  match options.connection files env with
  | .error fault => (.error fault, wire)
  | .ok c =>
    match op.perform { c with vcenterUuid := uuid.or c.vcenterUuid } files wire with
    | (.error f, wire) => (.error (.validation f.message), wire)
    | (.ok report, wire) => (.ok report, wire)

/-- What an invocation ends in. -/
inductive Outcome where
  | script (shell : String)
  | document (report : Report)
  | fault (fault : Fault)

/-- Run an invocation. -/
def Invocation.run (invocation : Invocation) (files : FileTree) (env : Environment) (wire : Wire) :
    Outcome × Wire :=
  let ofResult : Except Fault Report × Wire → Outcome × Wire
    | (.ok report, wire) => (.document report, wire)
    | (.error fault, wire) => (.fault fault, wire)
  match invocation.command with
  | .completions shell => (.script shell, wire)
  | .automation name path => ofResult (Automation.run name path files env wire)
  | .device op uuid => ofResult (runDevice op uuid invocation.options files env wire)

end CommandLine

end OutOfBand
