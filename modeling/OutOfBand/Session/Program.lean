import OutOfBand.Session.Basic

/-! # Session programs

What is done with an open session, as data: requests one after the other, each choice made from the
replies so far, and calls to close the session. A program ends in a value of any kind, such as a
result or a failure, and the body of a session may also end in a panic. Run inside a session of its
own, it leaves no session open on the device.
-/
namespace OutOfBand

inductive Program (α : Type) where
  | done (value : α)
  | execute (spec : Http.RequestSpec) (next : Except SessionError Http.Envelope → Program α)
  | close (next : Program α)

namespace Program

/-- Go on from the end of a program. -/
def bind : Program α → (α → Program β) → Program β
  | done value, f => f value
  | execute spec next, f => .execute spec (fun reply => (next reply).bind f)
  | close next, f => .close (next.bind f)

instance : Monad Program where
  pure := done
  bind := bind

/-- Send one request and end with its reply. -/
def request (spec : Http.RequestSpec) : Program (Except SessionError Http.Envelope) := execute spec done

/-- Run a program on a session. -/
def run : Program α → Session → Wire → α × Session × Wire
  | done value, session, wire => (value, session, wire)
  | execute spec next, session, wire =>
    match session.execute spec wire with
    | (reply, wire) => (next reply).run session wire
  | close next, session, wire =>
    match session.close wire with
    | (session, wire) => next.run session wire

end Program

/-- Open a session, run a program on it, and close it however the program ended. If it does not open
there is nothing to close. -/
def withSession (files : FileTree) (config : SessionConfig) (body : Program α) (wire : Wire) :
    Except SessionError α × Wire :=
  match Session.open files config wire with
  | (.error e, wire) => (.error e, wire)
  | (.ok session, wire) =>
    match body.run session wire with
    | (value, session, wire) => (.ok value, (session.close wire).2)

/-! ## Panics -/

/-- What a panic carries to whoever catches it. -/
structure Panic where
  payload : String
deriving DecidableEq, Repr

/-- A program that may panic. A panic skips what follows, unless it is caught. -/
abbrev Body := ExceptT Panic Program

namespace Body

def panic (payload : Panic) : Body α := ExceptT.mk (.done (.error payload))

/-- A panic of the body becomes a value, so that nothing is skipped. -/
def caught (body : Body α) : Body (Except Panic α) := ExceptT.mk (Program.bind body.run (fun outcome => .done (.ok outcome)))

def close : Body Unit := ExceptT.mk (.close (.done (.ok ())))

/-- Close the session behind the body. A panic goes on after that. -/
def released (body : Body α) : Body α := do
  let outcome ← body.caught
  close
  match outcome with
  | .ok value => return value
  | .error payload => panic payload

/-- Open a session and run a body on it, with the session closed however the body ends. -/
def inSession (files : FileTree) (config : SessionConfig) (body : Body α) (wire : Wire) :
    Except Panic (Except SessionError α) × Wire :=
  match Session.open files config wire with
  | (.error e, wire) => (.ok (.error e), wire)
  | (.ok session, wire) =>
    match Program.run body.released.run session wire with
    | (outcome, _, wire) => (outcome.map .ok, wire)

end Body

end OutOfBand
