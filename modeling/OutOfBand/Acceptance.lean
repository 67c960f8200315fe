import OutOfBand.Http.Envelope
import OutOfBand.Report

/-! # Acceptance

The conventions by which a reply counts as success. Each caller names the one that it expects.
-/
namespace OutOfBand

inductive Acceptance where
  /-- A successful status. -/
  | httpStatus
  /-- A successful status and a top-level text that is one of some. -/
  | bodyField (field : String) (accepted : List String)
  /-- A result dictionary whose `Status` is `Success`, under any status. -/
  | driverResult
deriving DecidableEq, Repr

namespace Acceptance

def accepts (a : Acceptance) (e : Http.Envelope) : Bool :=
  match a with
  | httpStatus => e.isSuccess
  | bodyField field accepted => e.isSuccess && ((e.field? field).map accepted.contains).getD false
  | driverResult => e.field? "Status" == some "Success"

/-- The key under which a failing body is handed on. -/
def failureKey : Acceptance → String
  | driverResult => "status"
  | _ => "error_info"

def failureMessage (a : Acceptance) (e : Http.Envelope) : String :=
  match a with
  | httpStatus => e.diagnostic
  | bodyField field _ =>
    if e.isSuccess then
      let seen := (e.field? field).getD "<missing>"
      (e.field? "Message").getD s!"Unexpected {field} '{seen}'"
    else e.diagnostic
  | driverResult =>
    let seen := (e.field? "Status").getD "<missing>"
    ((e.field? "Message").filter (!·.isEmpty)).getD s!"The operation reported status '{seen}'"

end Acceptance

/-- What a failing reply hands on: its body, or its text where the body says nothing. -/
def Http.Envelope.failureBody (e : Http.Envelope) : Json :=
  if e.body.isNull && !e.raw.isEmpty then .string e.raw else e.body

/-- Fail unless the reply is accepted. -/
def Acceptance.require (a : Acceptance) (e : Http.Envelope) : Except Failure Unit :=
  if a.accepts e then .ok ()
  else .error (.remoteWith (a.failureMessage e) a.failureKey e.failureBody)

/-- The report of one reply by itself. -/
def Acceptance.interpret (a : Acceptance) (e : Http.Envelope) : Report :=
  match a.require e with
  | .ok _ => (Report.ok s!"Request completed with HTTP {e.status} {e.reason}.").withPayload "response" e.body
  | .error f => .ofFailure f

end OutOfBand
