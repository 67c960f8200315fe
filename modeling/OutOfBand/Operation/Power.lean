import OutOfBand.Operation.Basic
import OutOfBand.Family
import OutOfBand.Text.Lowercase

/-! # Power

Apply a reset type to a computer system: find the system, read where and how it can be reset, and
reset it if that does anything from its current power state.
-/
namespace OutOfBand

inductive ResetType where
  | forceOff
  | forceOn
  | forceRestart
  | gracefulRestart
  | gracefulShutdown
  | nmi
  | on
  | powerCycle
  | pushPowerButton
deriving DecidableEq, Repr

namespace ResetType

def all : List ResetType :=
  [forceOff, forceOn, forceRestart, gracefulRestart, gracefulShutdown, nmi, on, powerCycle, pushPowerButton]

def name : ResetType → String
  | forceOff => "ForceOff"
  | forceOn => "ForceOn"
  | forceRestart => "ForceRestart"
  | gracefulRestart => "GracefulRestart"
  | gracefulShutdown => "GracefulShutdown"
  | nmi => "Nmi"
  | on => "On"
  | powerCycle => "PowerCycle"
  | pushPowerButton => "PushPowerButton"

def names : List String := all.map name

def ofName? (s : String) : Option ResetType := all.find? (fun r => r.name == s)

/-- Read an exact name. -/
def parse (s : String) : Except Failure ResetType :=
  match ofName? s with
  | some r => .ok r
  | none =>
    let choices := String.intercalate ", " names
    .error (.configuration s!"value of reset_type must be one of: {choices}, got: {s}")

/-- Whether the reset does anything from a power state. -/
def appliesTo (r : ResetType) (state : String) : Bool :=
  let isOn := state == "On" || state == "PoweringOn"
  let isOff := state == "Off" || state == "PoweringOff"
  match r with
  | on => isOff
  | forceOn => isOff
  | pushPowerButton => true
  | _ => isOn

/-- A space before every capital but the first, all in lower case. -/
def spread (isFirst : Bool) : List Char → List Char
  | [] => []
  | c :: rest => (if c.isUpper && !isFirst then [' '] else []) ++ Text.asciiLower c :: spread false rest

def words (r : ResetType) : String := String.ofList (spread true r.name.toList)

end ResetType

namespace Operation

def resetAction : String := "#ComputerSystem.Reset"

def allowableKey : String := "ResetType@Redfish.AllowableValues"

def resetUnsupported : String :=
  "The target device does not support the system reset feature using Redfish API."

def errorKey : String := "error_info"

/-- The links of a collection's members. -/
def memberLinks (body : Json) : List String :=
  ((body.itemsMember? "Members").getD []).filterMap (·.textMember? "@odata.id")

/-- The one system that is meant. -/
def chooseSystem (resource : Option String) (links : List String) : Except Failure String :=
  match resource, links with
  | none, _ :: _ :: _ =>
    .error (.remote "Multiple devices exists in the system, but option 'resource_id' is not specified." [])
  | _, [] => .error (.remote resetUnsupported [])
  | none, [link] => .ok link
  | some id, links =>
    let wanted := s!"{Family.redfish.root}/Systems/{id}"
    if links.contains wanted then .ok wanted else .error (.remote s!"Invalid device Id '{id}' is provided" [])

/-- What a system says about resetting it. -/
structure ResetTarget where
  state : String
  uri : String
  /-- No values stand for no restriction. -/
  allowable : List String

/-- The reset target in the body of a system. -/
def resetTarget (body : Json) : Except Failure ResetTarget :=
  match (body.member? "Actions").bind (·.member? resetAction) with
  | none => .error (.remote resetUnsupported [])
  | some action =>
    match action.textMember? "target" with
    | none => .error (.remote resetUnsupported [])
    | some uri =>
      match body.textMember? "PowerState" with
      | none => .error (.indeterminate "the system did not report a PowerState")
      | some state => .ok ⟨state, uri, ((action.itemsMember? allowableKey).getD []).filterMap Json.text?⟩

/-- Fail when the reply says that there is no such system. -/
def requireSystem (reply : Http.Envelope) : Except Failure Unit :=
  if reply.status = 404 ∨ reply.status = 405 then .error (.remoteWith resetUnsupported errorKey reply.body)
  else .ok ()

/-- Fail when the target advertises reset types and not this one. -/
def requireAllowed (reset : ResetType) (target : ResetTarget) : Except Failure Unit :=
  if target.allowable.isEmpty || target.allowable.contains reset.name then .ok ()
  else
    let choices := String.intercalate ", " target.allowable
    .error (.remote (s!"The target device does not support a {reset.words} operation." ++
      s!"The acceptable values for device reset types are {choices}.") [])

/-- A power state as a state to compare. -/
def powerState (state : String) : Object := [("power_state", .string state)]

/-- A reset that does nothing is observed as done. -/
def observedPower (reset : ResetType) (state : String) : Object :=
  powerState (if reset.appliesTo state then state else reset.name)

def powerTask (reset : ResetType) (resource : Option String) (check : Bool) : Task Report := do
  let systems ← Task.send (.get "Systems")
  Task.requireStatus errorKey systems
  let link ← Task.ofExcept (chooseSystem resource (memberLinks systems.body))
  let system ← Task.send (.get link)
  Task.ofExcept (requireSystem system)
  Task.requireStatus errorKey system
  let target ← Task.ofExcept (resetTarget system.body)
  Task.ofExcept (requireAllowed reset target)
  let plan ← Task.ofExcept (Plan.make (powerState reset.name) (some (observedPower reset target.state)) check)
  match plan.action with
  | .noop =>
    if check then return .ok "No Changes found to be applied."
    else return .ok s!"The device is already powered {Text.lower target.state}."
  | .wouldChange => return .changed changesFound
  | .apply =>
    let reply ← Task.send ((Http.RequestSpec.post target.uri).withBody (.ofEntries [("ResetType", .string reset.name)]))
    Task.requireStatus errorKey reply
    return .changed s!"Successfully performed the reset type operation '{reset.name}'."

end Operation

end OutOfBand
