import OutOfBand.Json.Decode
import OutOfBand.Operation.Consoles
import OutOfBand.Operation.Inventory
import OutOfBand.Operation.Jobs
import OutOfBand.Operation.Listing
import OutOfBand.Operation.Power

/-! # Operations

The seven operations. Each speaks to one family of services and runs inside a session of its own;
whatever happens is told in its report.
-/
namespace OutOfBand

inductive Operation where
  | deleteJob (jobId : String)
  | clearQueue
  | jobStatus (jobId : String)
  | power (reset : ResetType) (resource : Option String)
  | inventory (state : InventoryState)
  | listing (jobId : Option Nat) (options : Option ListingOptions)
  | consoles (address : Option String)
deriving DecidableEq, Repr

/-- The operations without their options. -/
inductive OperationKind where
  | deleteJob
  | clearQueue
  | jobStatus
  | power
  | inventory
  | listing
  | consoles
deriving DecidableEq, Repr

namespace OperationKind

/-- The name in reports and logs. -/
def name : OperationKind → String
  | deleteJob => "idrac_lifecycle_controller_job_delete"
  | clearQueue => "idrac_lifecycle_controller_job_queue_delete"
  | jobStatus => "idrac_lifecycle_controller_job_status_info"
  | power => "redfish_powerstate"
  | inventory => "dellemc_idrac_lc_attributes"
  | listing => "ome_job_info"
  | consoles => "omevv_vcenter_info"

def family : OperationKind → Family
  | listing => .ome
  | consoles => .omevv
  | _ => .redfish

end OperationKind

namespace Operation

def kind : Operation → OperationKind
  | deleteJob _ => .deleteJob
  | clearQueue => .clearQueue
  | jobStatus _ => .jobStatus
  | power .. => .power
  | inventory _ => .inventory
  | listing .. => .listing
  | consoles _ => .consoles

/-- The task of an operation. Only a listing needs the bound on the links that it follows. -/
def task (op : Operation) (check : Bool) (budget : Nat) : Task Report :=
  match op with
  | deleteJob jobId => Operation.deleteJobTask jobId check
  | clearQueue => Operation.clearQueueTask check
  | jobStatus jobId => Operation.jobStatusTask jobId
  | power reset resource => Operation.powerTask reset resource check
  | inventory state => Operation.inventoryTask state check
  | listing jobId options => Operation.listingTask jobId options budget
  | consoles address => Operation.consolesTask address

/-- The links that a listing can follow before the device has nothing left to say. -/
def linkBudget (wire : Wire) : Nat := wire.device.replies.length + 1

/-- Run an operation inside a session of its own. -/
def run (op : Operation) (check : Bool) (files : FileTree) (config : SessionConfig) (wire : Wire) : Report × Wire :=
  match withSession files config (op.task check (linkBudget wire)).program wire with
  | (.error e, wire) => (.ofFailure (.ofSessionError e), wire)
  | (.ok (.error f), wire) => (.ofFailure f, wire)
  | (.ok (.ok report), wire) => (report, wire)

end Operation

/-! ## Options -/

namespace ResetType

def decode (value : Json) : Decoded ResetType := do
  let name ← value.variant names
  match ofName? name with
  | some r => .ok r
  | none => .error (.unknownVariant name names)

end ResetType

namespace InventoryState

def decode (value : Json) : Decoded InventoryState := do
  let s ← value.text
  match parse? s with
  | some state => .ok state
  | none => .error (.refused s!"value of state must be one of: enabled, disabled, got: {s}")

end InventoryState

namespace ListingOptions

def shape : RecordShape :=
  ⟨"SystemQueryOptions", [.of "top" [] .optional (Json.optional (Json.unsigned 64)),
    .of "skip" [] .optional (Json.optional (Json.unsigned 64)), .of "filter" [] .optional (Json.optional Json.text)]⟩

def decode (value : Json) : Decoded ListingOptions := do
  let seen ← shape.decode value
  .ok ⟨← fieldOr seen "top" (Json.optional (Json.unsigned 64)) none,
    ← fieldOr seen "skip" (Json.optional (Json.unsigned 64)) none,
    ← fieldOr seen "filter" (Json.optional Json.text) none⟩

end ListingOptions

namespace OperationKind

/-- A field that has to be there; the shape has seen to that. -/
def needed (seen : List (String × Json)) (name : String) (reader : Json → Decoded α) : Decoded α :=
  match Fields.get? seen name with
  | some value => reader value
  | none => .error (.missingField name)

def shape : OperationKind → RecordShape
  | deleteJob => ⟨"LcJobDelete", [.of "job_id" [] .required Json.text]⟩
  | clearQueue => ⟨"LcJobQueueDelete", []⟩
  | jobStatus => ⟨"LcJobStatus", [.of "job_id" [] .required Json.text]⟩
  | power => ⟨"PowerState", [.of "reset_type" [] .required ResetType.decode,
      .of "resource_id" [] .optional (Json.optional Json.text)]⟩
  | inventory => ⟨"Csior", [.of "state" ["csior"] .required InventoryState.decode]⟩
  | listing => ⟨"OmeJobInfo", [.of "job_id" [] .optional (Json.optional (Json.unsigned 64)),
      .of "system_query_options" [] .optional (Json.optional ListingOptions.decode)]⟩
  | consoles => ⟨"OmevvVcenterInfo", [.of "vcenter_hostname" [] .optional (Json.optional Json.text)]⟩

/-- An operation of this kind with the options of a value. -/
def decode (kind : OperationKind) (value : Json) : Decoded Operation := do
  let seen ← kind.shape.decode value
  match kind with
  | deleteJob => (needed seen "job_id" Json.text).map .deleteJob
  | clearQueue => .ok .clearQueue
  | jobStatus => (needed seen "job_id" Json.text).map .jobStatus
  | power =>
    .ok (.power (← needed seen "reset_type" ResetType.decode)
      (← fieldOr seen "resource_id" (Json.optional Json.text) none))
  | inventory => (needed seen "state" InventoryState.decode).map .inventory
  | listing =>
    .ok (.listing (← fieldOr seen "job_id" (Json.optional (Json.unsigned 64)) none)
      (← fieldOr seen "system_query_options" (Json.optional ListingOptions.decode) none))
  | consoles => (fieldOr seen "vcenter_hostname" (Json.optional Json.text) none).map .consoles

end OperationKind

end OutOfBand
