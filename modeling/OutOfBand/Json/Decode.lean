import OutOfBand.Json.Writer

/-! # Typed reading of JSON values

Readers that take a value to a type or say why it has another one. A record is described by its
fields; it reads from an object, whose members are visited in key order, and from an array that lists
the fields in order of declaration.
-/
namespace OutOfBand

/-- What stood where something else was expected. -/
inductive Found where
  | nothing
  | bool (b : Bool)
  | int (n : Int)
  | float (x : Binary64)
  | text (s : String)
  | sequence
  | map
deriving DecidableEq, Repr

inductive Mismatch where
  | wrongType (found : Found) (expected : String)
  | wrongValue (found : Found) (expected : String)
  | wrongLength (length : Nat) (expected : String)
  | missingField (name : String)
  | duplicateField (name : String)
  | unknownVariant (name : String) (expected : List String)
  | refused (message : String)
deriving DecidableEq, Repr

def Found.message : Found → String
  | .nothing => "null"
  | .bool b => s!"boolean `{b}`"
  | .int n => s!"integer `{n}`"
  | .float x => s!"floating point `{FloatFormat.json.render x}`"
  | .text s => s!"string {Text.quoted s}"
  | .sequence => "sequence"
  | .map => "map"

def inBackticks (name : String) : String := "`" ++ name ++ "`"

def Mismatch.message : Mismatch → String
  | .wrongType found expected => s!"invalid type: {found.message}, expected {expected}"
  | .wrongValue found expected => s!"invalid value: {found.message}, expected {expected}"
  | .wrongLength length expected => s!"invalid length {length}, expected {expected}"
  | .missingField name => s!"missing field `{name}`"
  | .duplicateField name => s!"duplicate field `{name}`"
  | .unknownVariant name expected =>
    let choices := String.intercalate ", " (expected.map inBackticks)
    s!"unknown variant `{name}`, expected one of {choices}"
  | .refused message => message

abbrev Decoded := Except Mismatch

namespace Json

def found : Json → Found
  | .null => .nothing
  | .bool b => .bool b
  | .number (.int n) => .int n
  | .number (.float x) => .float x
  | .string s => .text s
  | .array _ => .sequence
  | .object _ => .map

def wrongType (value : Json) (expected : String) : Decoded α := .error (.wrongType value.found expected)

def text : Json → Decoded String
  | .string s => .ok s
  | value => value.wrongType "a string"

/-- A file path: any text. -/
def path : Json → Decoded String
  | .string s => .ok s
  | value => value.wrongType "path string"

def boolean : Json → Decoded Bool
  | .bool b => .ok b
  | value => value.wrongType "a boolean"

/-- A whole number from zero up to below `2 ^ bits`. -/
def unsigned (bits : Nat) : Json → Decoded Nat
  | .number (.int n) =>
    if 0 ≤ n ∧ n < Nat.pow 2 bits then .ok n.toNat else .error (.wrongValue (.int n) s!"u{bits}")
  | value => value.wrongType s!"u{bits}"

/-- A whole number that fits 64 bits with a sign. -/
def signed64 : Json → Decoded Int
  | .number (.int n) =>
    if -Nat.pow 2 63 ≤ n ∧ n < Nat.pow 2 63 then .ok n else .error (.wrongValue (.int n) "i64")
  | value => value.wrongType "i64"

/-- Null is absence. -/
def optional (reader : Json → Decoded α) : Json → Decoded (Option α)
  | .null => .ok none
  | value => (reader value).map some

def list (reader : Json → Decoded α) : Json → Decoded (List α)
  | .array items => items.mapM reader
  | value => value.wrongType "a sequence"

def table (reader : Json → Decoded α) : Json → Decoded (Fields α)
  | .object members => members.mapM (fun entry => (reader entry.2).map (fun value => (entry.1, value)))
  | value => value.wrongType "a map"

def knownVariant (names : List String) (name : String) : Decoded String :=
  if name ∈ names then .ok name else .error (.unknownVariant name names)

/-- One of some names: the bare name, or an object whose one key is the name and whose value is
null. -/
def variant (names : List String) : Json → Decoded String
  | .string name => knownVariant names name
  | .object [(name, value)] => do
    let name ← knownVariant names name
    match value with
    | .null => .ok name
    | value => value.wrongType "unit"
  | .object _ => .error (.wrongValue .map "map with a single key")
  | value => value.wrongType "string or map"

end Json

/-! ## Records -/

/-- When a field may be left out. -/
inductive Presence where
  | required
  /-- Left out of an object, but not of an array. -/
  | byName
  | optional
deriving DecidableEq, Repr

structure FieldRule where
  name : String
  aliases : List String
  presence : Presence
  check : Json → Decoded Unit

structure RecordShape where
  name : String
  fields : List FieldRule

namespace FieldRule

def of (name : String) (aliases : List String) (presence : Presence) (reader : Json → Decoded α) : FieldRule :=
  ⟨name, aliases, presence, fun value => (reader value).map (fun _ => ())⟩

def isSpelled (rule : FieldRule) (key : String) : Bool := key == rule.name || rule.aliases.contains key

end FieldRule

namespace RecordShape

def rule? (shape : RecordShape) (key : String) : Option FieldRule :=
  shape.fields.find? (fun rule => rule.isSpelled key)

/-- Visit the members in order. The result holds each recognised value under its field's own name;
keys that spell no field are passed over. -/
def visit (shape : RecordShape) (seen : List (String × Json)) : List (String × Json) → Decoded (List (String × Json))
  | [] => .ok seen
  | (key, value) :: rest =>
    match shape.rule? key with
    | none => shape.visit seen rest
    | some rule =>
      if Fields.contains seen rule.name then .error (.duplicateField rule.name)
      else do
        rule.check value
        shape.visit (seen ++ [(rule.name, value)]) rest

/-- The first required field without a value. -/
def missing? (shape : RecordShape) (seen : List (String × Json)) : Option String :=
  (shape.fields.find? (fun rule => rule.presence = .required && !Fields.contains seen rule.name)).map FieldRule.name

def ofMembers (shape : RecordShape) (members : List (String × Json)) : Decoded (List (String × Json)) := do
  let seen ← shape.visit [] members
  match shape.missing? seen with
  | some name => .error (.missingField name)
  | none => .ok seen

/-- The shape as a list of its fields. -/
def listing (shape : RecordShape) : String :=
  match shape.fields with
  | [_] => s!"struct {shape.name} with 1 element"
  | fields => s!"struct {shape.name} with {fields.length} elements"

/-- Items and fields side by side; `index` counts the fields passed. -/
def pair (shape : RecordShape) (index : Nat) : List FieldRule → List Json → Decoded (List (String × Json))
  | [], _ => .ok []
  | rule :: rules, [] =>
    if rule.presence = .optional then shape.pair (index + 1) rules []
    else .error (.wrongLength index shape.listing)
  | rule :: rules, item :: items => do
    rule.check item
    let rest ← shape.pair (index + 1) rules items
    .ok ((rule.name, item) :: rest)

def ofItems (shape : RecordShape) (items : List Json) : Decoded (List (String × Json)) := do
  let seen ← shape.pair 0 shape.fields items
  if shape.fields.length < items.length then .error (.wrongLength items.length "fewer elements in array")
  else .ok seen

/-- The recognised values, each under the name of its field. -/
def decode (shape : RecordShape) : Json → Decoded (List (String × Json))
  | .object members => shape.ofMembers members
  | .array items => shape.ofItems items
  | value => value.wrongType s!"struct {shape.name}"

end RecordShape

/-- A field of a record that has been decoded, or its default. -/
def fieldOr (seen : List (String × Json)) (name : String) (reader : Json → Decoded α) (default : α) : Decoded α :=
  match Fields.get? seen name with
  | some value => reader value
  | none => .ok default

end OutOfBand
