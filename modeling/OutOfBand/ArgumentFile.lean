import OutOfBand.Json.Reader
import OutOfBand.Operation
import OutOfBand.Settings.Config

/-! # Argument files

A document that carries the arguments of one operation under a key of its own: the options of the
connection together with those of the operation.
-/
namespace OutOfBand

structure ArgumentFile where
  connection : Connection
  arguments : Object

namespace ArgumentFile

def key : String := "ANSIBLE_MODULE_ARGS"

def refuse (reason : String) : Except SettingsError α := .error (.arguments reason)

def ofMismatch (result : Decoded α) : Except SettingsError α :=
  result.mapError (fun mismatch => .arguments mismatch.message)

/-- The object under the key. -/
def argumentsOf (document : Json) : Except SettingsError Object :=
  match document with
  | .object members =>
    match Fields.get? members key with
    | some (.object arguments) => .ok arguments
    | _ => refuse s!"expected an object under '{key}'"
  | _ => refuse "expected a JSON object"

/-- Read a document. -/
def parse (raw : String) : Except SettingsError ArgumentFile := do
  let document ← (Json.read raw).mapError SettingsError.arguments
  let arguments ← argumentsOf document
  let connection ← ofMismatch (Connection.decode (.object arguments))
  .ok ⟨connection, arguments⟩

/-- The operation whose options the document states. -/
def operation (file : ArgumentFile) (kind : OperationKind) : Except SettingsError Operation :=
  ofMismatch (kind.decode (.object file.arguments))

/-- An argument that is not null. -/
def get? (file : ArgumentFile) (name : String) : Option Json := (file.arguments.get? name).filter (!·.isNull)

/-- Read and parse a file. -/
def load (files : FileTree) (path : String) : Except SettingsError ArgumentFile :=
  match files.readText path with
  | .error fault => .error (.io fault)
  | .ok text => parse text

end ArgumentFile

end OutOfBand
