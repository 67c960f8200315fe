import OutOfBand.Http.Header
import OutOfBand.Http.Status
import OutOfBand.Json.Decode
import OutOfBand.Json.Reader

/-! # Reply envelopes

The uniform view of one complete reply: status, headers, body. A body that is empty or not JSON
counts as null, its text kept beside it. Management services report failures in a vendor structure,
from which the most specific message is taken.
-/
namespace OutOfBand.Http

structure Envelope where
  status : Nat
  headers : Headers
  body : Json
  raw : String

structure ExtendedInfo where
  message : Option String
  messageId : Option String
  resolution : Option String
  severity : Option String

structure VendorError where
  code : Option String
  message : Option String
  extendedInfo : List ExtendedInfo

namespace ExtendedInfo

def optionalText (name : String) : FieldRule := .of name [] .byName (Json.optional Json.text)

def shape : RecordShape :=
  ⟨"ExtendedInfo", [optionalText "Message", optionalText "MessageId", optionalText "Resolution", optionalText "Severity"]⟩

def decode (value : Json) : Decoded ExtendedInfo := do
  let seen ← shape.decode value
  let field (name : String) := fieldOr seen name (Json.optional Json.text) none
  .ok ⟨← field "Message", ← field "MessageId", ← field "Resolution", ← field "Severity"⟩

end ExtendedInfo

namespace VendorError

def infosKey : String := "@Message.ExtendedInfo"

def shape : RecordShape :=
  ⟨"VendorErrorBody", [ExtendedInfo.optionalText "code", ExtendedInfo.optionalText "message",
    .of infosKey [] .optional (Json.list ExtendedInfo.decode)]⟩

def decode (value : Json) : Decoded VendorError := do
  let seen ← shape.decode value
  .ok ⟨← fieldOr seen "code" (Json.optional Json.text) none, ← fieldOr seen "message" (Json.optional Json.text) none,
    ← fieldOr seen infosKey (Json.list ExtendedInfo.decode) []⟩

end VendorError

namespace Envelope

/-- The envelope of a reply that has been read to its end. -/
def ofReply (status : Nat) (headers : Headers) (raw : String) : Envelope :=
  ⟨status, headers, if Text.isBlankText raw then .null else (Json.read? raw).getD .null, raw⟩

/-- The envelope of a body made here and not read off the wire. -/
def synthesized (status : Nat) (body : Json) : Envelope :=
  ⟨status, [], body, if body.isNull then "" else body.compact⟩

def isSuccess (e : Envelope) : Bool := Http.isSuccess e.status

def reason (e : Envelope) : String := Http.reason e.status

/-- A top-level text of the body. -/
def field? (e : Envelope) (name : String) : Option String := e.body.textMember? name

/-- The vendor structure under `error`, if the whole of it has the right types. -/
def vendorError? (e : Envelope) : Option VendorError :=
  match e.body.member? "error" with
  | some (.object members) => (VendorError.decode (.object members)).toOption
  | _ => none

def nonempty (s : String) : Bool := !s.isEmpty

/-- The message of the vendor structure: that of the first extended info, else its own. -/
def VendorError.bestMessage? (v : VendorError) : Option String :=
  ((v.extendedInfo.head?.bind ExtendedInfo.message).filter nonempty).or (v.message.filter nonempty)

def statusLine (e : Envelope) : String := Text.trimEnd s!"HTTP {e.status} {e.reason}"

/-- The most specific message: vendor structure, then a top-level `Message`, then the status line. -/
def diagnostic (e : Envelope) : String :=
  (((e.vendorError?.bind VendorError.bestMessage?).or ((e.field? "Message").filter nonempty))).getD e.statusLine

/-- The first characters of the text, shown when a body cannot be decoded. -/
def preview (e : Envelope) : String := String.ofList (e.raw.toList.take 200)

end Envelope

/-- Whether a member is an annotation of the protocol and no data. -/
def isAnnotated (key : String) : Bool := Text.contains key "@odata."

/-- The object without its annotations. -/
def stripAnnotations (object : Object) : Object := List.filter (fun entry => !isAnnotated entry.1) object

end OutOfBand.Http
