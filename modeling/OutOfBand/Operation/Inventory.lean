import OutOfBand.Operation.Basic

/-! # Inventory on restart

Whether the lifecycle controller collects the system's inventory on every restart.
-/
namespace OutOfBand

inductive InventoryState where
  | enabled
  | disabled
deriving DecidableEq, Repr

namespace InventoryState

def name : InventoryState → String
  | enabled => "Enabled"
  | disabled => "Disabled"

/-- Read a state in any case; presence and absence are synonyms. -/
def parse? (s : String) : Option InventoryState :=
  let word := Text.lowerAscii (Text.trim s)
  if ["enabled", "enable", "present"].contains word then some enabled
  else if ["disabled", "disable", "absent"].contains word then some disabled
  else none

end InventoryState

namespace Operation

def inventoryAttribute : String := "LCAttributes.1.CollectSystemInventoryOnRestart"

def attributesPath : String := "/redfish/v1/Managers/LifecycleController.Embedded.1/Attributes"

/-- The attributes, if the one that matters is among them. -/
def observedAttributes (body : Json) : Option Object :=
  ((body.member? "Attributes").bind Json.members?).filter (fun attributes => attributes.contains inventoryAttribute)

def inventoryTask (state : InventoryState) (check : Bool) : Task Report := do
  let current ← Task.send (.get attributesPath)
  Task.requireStatus "error_info" current
  let desired : Object := [(inventoryAttribute, .string state.name)]
  let plan ← Task.plan desired (observedAttributes current.body) check
    s!"the Lifecycle Controller did not report {inventoryAttribute}"
  match plan.action with
  | .noop => return .ok noChanges
  | .wouldChange => return .changed changesFound
  | .apply =>
    let delta := plan.deltaPayload desired
    let reply ← Task.send ((Http.RequestSpec.patch attributesPath).withBody (.ofEntries [("Attributes", .object delta)]))
    Task.requireStatus "error_info" reply
    return (Report.changed "Successfully configured the iDRAC LC attributes.").withPayload
      "lc_attribute_status" (.object delta)

end Operation

end OutOfBand
