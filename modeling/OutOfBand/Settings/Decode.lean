import OutOfBand.Settings.Value

/-! # Typed reading of settings

Readers that take a setting to a type. A fault tells where it lies: the path of keys, and the source of
the setting at fault.
-/
namespace OutOfBand

namespace Settings

inductive Cause where
  | wrongType (found expected : String)
  | wrongValue (found expected : String)
  | wrongLength (length : Nat) (expected : String)
  | missingField (name : String)
deriving DecidableEq, Repr

def Cause.message : Cause → String
  | .wrongType found expected => s!"invalid type: found {found}, expected {expected}"
  | .wrongValue found expected => s!"invalid value {found}, expected {expected}"
  | .wrongLength length expected => s!"invalid length {length}, expected {expected}"
  | .missingField name => s!"missing field `{name}`"

structure Fault where
  cause : Cause
  path : List String
  source : Source
deriving DecidableEq, Repr

namespace Fault

/-- The path as the source spells it. -/
def key (fault : Fault) : String :=
  match fault.source with
  | .environment => String.intercalate "." (fault.path.map Text.upperAscii)
  | _ => String.intercalate "." ("default" :: fault.path)

def place (file : String) : Source → String
  | .builtin => "the built-in defaults"
  | .file => s!"{file} TOML file"
  | .environment => "`OPENMANAGE_` environment variable(s)"

/-- The message of a fault in the settings of `file` and the environment. -/
def message (file : String) (fault : Fault) : String :=
  let key := if fault.path.isEmpty then "" else s!" for key {Text.quoted fault.key}"
  s!"{fault.cause.message}{key} in {place file fault.source}"

/-- The fault, seen from a table that holds it under `key`. -/
def under (key : String) (fault : Fault) : Fault := { fault with path := key :: fault.path }

end Fault

abbrev Result := Except Fault

end Settings

namespace Setting

open Settings

def fault (cause : Cause) (setting : Setting) : Result α := .error ⟨cause, [], setting.source⟩

def wrongType (expected : String) (setting : Setting) : Result α := setting.fault (.wrongType setting.found expected)

def text (setting : Setting) : Result String :=
  match setting with
  | .leaf _ (.text s) => .ok s
  | .leaf _ (.character c) => .ok (String.singleton c)
  | setting => setting.wrongType "a string"

def path (setting : Setting) : Result String :=
  match setting with
  | .leaf _ (.text s) => .ok s
  | .leaf _ (.character c) => .ok (String.singleton c)
  | setting => setting.wrongType "path string"

def boolean (setting : Setting) : Result Bool :=
  match setting with
  | .leaf _ (.truth b) => .ok b
  | setting => setting.wrongType "a boolean"

/-- A whole number from zero up to below `2 ^ bits`. -/
def whole (bits : Nat) (setting : Setting) : Result Nat :=
  match setting with
  | .leaf _ (.unsigned n) =>
    if n < Nat.pow 2 bits then .ok n else setting.fault (.wrongValue setting.found s!"u{bits}")
  | .leaf _ (.signed n) =>
    if 0 ≤ n ∧ n < Nat.pow 2 bits then .ok n.toNat else setting.fault (.wrongValue setting.found s!"u{bits}")
  | setting => setting.wrongType s!"u{bits}"

/-- Read the values of a table. -/
def tableOf (reader : Setting → Result α) (setting : Setting) : Result (Fields α) :=
  match setting with
  | .table _ entries =>
    entries.mapM (fun entry =>
      ((reader entry.2).mapError (Fault.under entry.1)).map (fun value => (entry.1, value)))
  | setting => setting.wrongType "a map"

/-- When a field may be left out: never, in a table only, or always. -/
inductive Need where
  | required
  | named
  | optional
deriving DecidableEq, Repr

structure Field where
  name : String
  need : Need
  check : Setting → Result Unit

def Field.of (name : String) (need : Need) (reader : Setting → Result α) : Field :=
  ⟨name, need, fun setting => (reader setting).map (fun _ => ())⟩

structure Shape where
  name : String
  fields : List Field

namespace Shape

/-- Check the entries in key order; keys that name no field are passed over. -/
def checkEntries (shape : Shape) : List (String × Setting) → Result Unit
  | [] => .ok ()
  | (key, setting) :: rest =>
    match shape.fields.find? (fun field => field.name == key) with
    | none => shape.checkEntries rest
    | some field => do
      (field.check setting).mapError (Fault.under key)
      shape.checkEntries rest

/-- Pair fields with the items of a sequence; items beyond the fields are passed over. -/
def pair (shape : Shape) (source : Source) (index : Nat) : List Field → List Setting → Result (Fields Setting)
  | [], _ => .ok []
  | field :: fields, [] =>
    if field.need = .optional then shape.pair source (index + 1) fields []
    else .error ⟨.wrongLength index s!"struct {shape.name} with {shape.fields.length} elements", [], source⟩
  | field :: fields, item :: items => do
    (field.check item).mapError (Fault.under (toString index))
    let rest ← shape.pair source (index + 1) fields items
    .ok ((field.name, item) :: rest)

/-- The settings of the fields. -/
def read (shape : Shape) (setting : Setting) : Result (Fields Setting) :=
  match setting with
  | .table source entries => do
    shape.checkEntries entries
    match shape.fields.find? (fun field => field.need = .required && !Fields.contains entries field.name) with
    | some field => .error ⟨.missingField field.name, [], source⟩
    | none => .ok entries
  | .sequence source items => shape.pair source 0 shape.fields items
  | setting => setting.wrongType s!"struct {shape.name}"

end Shape

/-- The value of a field that may be left out. -/
def field? (entries : Fields Setting) (name : String) (reader : Setting → Result α) : Result (Option α) :=
  match entries.get? name with
  | some setting => (reader setting).map some
  | none => .ok none

end Setting

end OutOfBand
