import OutOfBand.Operation.Basic

/-! # Consoles

The vCenter consoles that are registered with the gateway.
-/
namespace OutOfBand.Operation

def consolesFetched : String := "Successfully retrieved the vCenter information."

/-- The consoles in the body of a listing. No body stands for none. -/
def consolesOf : Json → Except Failure (List Json)
  | .array items => .ok items
  | .null => .ok []
  | other => .error (.remoteWith "unexpected response listing vCenter consoles" "error_info" other)

def hasAddress (address : String) (console : Json) : Bool := console.textMember? "consoleAddress" == some address

/-- List the consoles, or those with one address. -/
def consolesTask (address : Option String) : Task Report := do
  let reply ← Task.send (.get "Consoles")
  Task.requireStatus "error_info" reply
  let all ← Task.ofExcept (consolesOf reply.body)
  match address with
  | none => return (Report.ok consolesFetched).withPayload "vcenter_info" (.array all)
  | some address =>
    let found := all.filter (hasAddress address)
    let message := if found.isEmpty then s!"'{address}' vCenter is not registered in OME." else consolesFetched
    return (Report.ok message).withPayload "vcenter_info" (.array found)

end OutOfBand.Operation
