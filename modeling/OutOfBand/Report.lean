import OutOfBand.Failure

/-! # Reports

The one document that an operation ends in: its verdict, a message, and a payload under keys of the
caller's choice. The verdict's own keys are reserved, so no payload can contradict it.
-/
namespace OutOfBand

/-- How an operation ended, in three flags. -/
structure Verdict where
  isChanged : Bool
  isFailed : Bool
  isUnreachable : Bool
deriving DecidableEq, Repr

namespace Verdict

/-- A failure is never a change. -/
def build (isChanged isFailed isUnreachable : Bool) : Verdict := ⟨isChanged && !isFailed, isFailed, isUnreachable⟩

def unchanged : Verdict := build false false false

def changed : Verdict := build true false false

def failed : Verdict := build false true false

def unreachable : Verdict := build false true true

end Verdict

structure Report where
  verdict : Verdict
  message : String
  payload : Object

namespace Report

def reservedKeys : List String := ["changed", "failed", "msg", "unreachable"]

def ok (message : String) : Report := ⟨.unchanged, message, []⟩

def changed (message : String) : Report := ⟨.changed, message, []⟩

def withChanged (isChanged : Bool) (message : String) : Report := ⟨.build isChanged false false, message, []⟩

def failed (message : String) : Report := ⟨.failed, message, []⟩

/-- The device could not be reached, which is a failure of its own kind. -/
def unreachable (message : String) : Report := ⟨.unreachable, message, []⟩

def isChanged (r : Report) : Bool := r.verdict.isChanged

def isFailed (r : Report) : Bool := r.verdict.isFailed

def isUnreachable (r : Report) : Bool := r.verdict.isUnreachable

/-- Attach a value; a reserved key is passed over. -/
def withPayload (r : Report) (key : String) (value : Json) : Report :=
  if reservedKeys.contains key then r else { r with payload := r.payload.insert key value }

def get? (r : Report) (key : String) : Option Json := r.payload.get? key

def ofFailure (f : Failure) : Report :=
  if f.isUnreachable then unreachable f.message
  else List.foldl (fun r entry => r.withPayload entry.1 entry.2) (failed f.message) f.payload

/-- The entries of the document in the order in which they are written. -/
def entries (r : Report) : List (String × Json) :=
  [("changed", .bool r.isChanged), ("failed", .bool r.isFailed), ("msg", .string r.message)] ++
    (if r.isUnreachable then [("unreachable", .bool true)] else []) ++ r.payload

/-- The document as a value, put together entry by entry. -/
def toJson (r : Report) : Json :=
  let flags : Object := ((Fields.insert "changed" (.bool r.isChanged) []).insert "failed" (.bool r.isFailed)).insert "msg"
    (.string r.message)
  let flags := if r.isUnreachable then flags.insert "unreachable" (.bool true) else flags
  .object (List.foldl (fun members entry => Fields.insert entry.1 entry.2 members) flags r.payload)

end Report

end OutOfBand
