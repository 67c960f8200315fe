import OutOfBand.Number.Format
import OutOfBand.Text.Quoted
import OutOfBand.Toml.Basic

/-! # Settings

A setting is a value that knows where it comes from. Layers of settings are merged: tables key by key,
anything else by the later layer. A merged table counts as the later layer's.
-/
namespace OutOfBand

inductive Source where
  | builtin
  | file
  | environment
deriving DecidableEq, Repr

inductive Leaf where
  | text (s : String)
  | truth (b : Bool)
  | unsigned (n : Nat)
  | signed (n : Int)
  | real (x : Binary64)
  | character (c : Char)

inductive Setting where
  | leaf (source : Source) (value : Leaf)
  | sequence (source : Source) (items : List Setting)
  | table (source : Source) (entries : List (String × Setting))

namespace Setting

def source : Setting → Source
  | leaf source _ => source
  | sequence source _ => source
  | table source _ => source

mutual

/-- Lay the second setting over the first. -/
def merge : Setting → Setting → Setting
  | earlier, .table source later =>
    match earlier with
    | .table _ entries => .table source (mergeEntries entries later)
    | _ => .table source later
  | _, .leaf source value => .leaf source value
  | _, .sequence source items => .sequence source items

def mergeEntries (entries : Fields Setting) : List (String × Setting) → Fields Setting
  | [] => entries
  | (key, value) :: rest =>
    let merged := match entries.get? key with
      | some earlier => merge earlier value
      | none => value
    mergeEntries (Fields.insert key merged entries) rest

end

mutual

/-- A value of a document as a setting. A time is kept as a table, since no setting is one. -/
def ofToml : Toml → Setting
  | .string s => .leaf .file (.text s)
  | .integer n => .leaf .file (.signed n)
  | .float x => .leaf .file (.real x)
  | .boolean b => .leaf .file (.truth b)
  | .datetime text => .table .file [("$__toml_private_datetime", .leaf .file (.text text))]
  | .array items => .sequence .file (ofItems items)
  | .table entries => .table .file (ofEntries entries)

def ofItems : List Toml → List Setting
  | [] => []
  | item :: rest => ofToml item :: ofItems rest

def ofEntries : List (String × Toml) → List (String × Setting)
  | [] => []
  | (key, value) :: rest => (key, ofToml value) :: ofEntries rest

end

/-- A real number in a message. -/
def realText (x : Binary64) : String :=
  if x.isFinite then FloatFormat.plain.render x
  else if x.code = Binary64.infiniteCode then (if x.negative then "-inf" else "inf")
  else "NaN"

/-- What a message says was found. -/
def found : Setting → String
  | leaf _ (.text s) => s!"string {Text.quoted s}"
  | leaf _ (.truth b) => s!"bool {b}"
  | leaf _ (.unsigned n) => s!"unsigned int `{n}`"
  | leaf _ (.signed n) => s!"signed int `{n}`"
  | leaf _ (.real x) => s!"float `{realText x}`"
  | leaf _ (.character c) => s!"string {Text.quoted (String.singleton c)}"
  | sequence .. => "sequence"
  | table .. => "map"

end Setting

end OutOfBand
