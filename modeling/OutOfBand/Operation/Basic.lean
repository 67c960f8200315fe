import OutOfBand.Acceptance
import OutOfBand.Plan
import OutOfBand.Session.Program

/-! # Tasks

A task is a session program that ends in a value or in a failure. Operations are tasks that end in a
report: they read the current state, plan, and change something only when the plan says so.
-/
namespace OutOfBand

abbrev Task := ExceptT Failure Program

namespace Task

def fail (f : Failure) : Task α := ExceptT.mk (.done (.error f))

def ofExcept : Except Failure α → Task α
  | .ok a => pure a
  | .error f => fail f

/-- A failure of the device with nothing to hand on. -/
def failRemote (message : String) : Task α := fail (.remote message [])

/-- Go on with the value of a program, or fail with its session error. -/
def ofSession (program : Program (Except SessionError α)) : Task α :=
  ExceptT.mk (program.bind (fun result => .done (result.mapError Failure.ofSessionError)))

def send (spec : Http.RequestSpec) : Task Http.Envelope := ofSession (Program.request spec)

/-- The payload of a remote failure, all of it under one key. -/
def rekey (key : String) : Failure → Failure
  | .remote message payload => .remote message (Fields.ofList (List.map (fun entry => (key, entry.2)) payload))
  | f => f

/-- A remote failure under another message. -/
def remessage (message : String) : Failure → Failure
  | .remote _ payload => .remote message payload
  | f => f

/-- Fail unless the reply has a successful status; the body is handed on under `key`. -/
def requireStatus (key : String) (reply : Http.Envelope) : Task Unit :=
  ofExcept ((Acceptance.httpStatus.require reply).mapError (rekey key))

/-- Fail with `message` unless the reply is a successful result dictionary. -/
def requireResult (message : String) (reply : Http.Envelope) : Task Unit :=
  ofExcept ((Acceptance.driverResult.require reply).mapError (remessage message))

/-- Plan for a desired state; where nothing was observed the task fails with `unreadable`. -/
def plan (desired : Object) (observed : Option Object) (check : Bool) (unreadable : String) : Task Plan :=
  ofExcept ((Plan.make desired observed check).mapError (fun _ => .indeterminate unreadable))

/-- The end of the task with its value, as a program. -/
def program (task : Task α) : Program (Except Failure α) := task.run

end Task

namespace Operation

def changesFound : String := "Changes found to be applied."

def noChanges : String := "No changes found to be applied."

end Operation

end OutOfBand
