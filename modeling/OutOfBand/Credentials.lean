import OutOfBand.SessionError
import OutOfBand.Text.Blank

/-! # Credentials

Exactly one of two modes: user name with password, or a token issued before.
-/
namespace OutOfBand

inductive Credentials where
  | basic (username password : String)
  | token (token : String)
deriving DecidableEq, Repr

namespace Credentials

/-- The mode that loosely given options stand for. A blank user name counts as none. -/
def ofParts (username password token : Option String) : Except SessionError Credentials :=
  match (username.map Text.trim).filter (!·.isEmpty), password, token with
  | none, none, some token => .ok (.token token)
  | some _, _, some _ | _, some _, some _ =>
    .error (.configuration "parameters are mutually exclusive: username|auth_token, password|auth_token")
  | some username, some password, none => .ok (.basic username password)
  | some _, none, none => .error (.configuration "missing required argument: password")
  | none, some _, none => .error (.configuration "missing required argument: username")
  | none, none, none => .error (.configuration "one of the following is required: username, auth_token")

end Credentials

end OutOfBand
