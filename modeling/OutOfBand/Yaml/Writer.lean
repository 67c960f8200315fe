import OutOfBand.Json.Basic
import OutOfBand.Number.Format
import OutOfBand.Yaml.Scalar

/-! # Writing YAML

Values in block style, two spaces a level, the items of a sequence under a key not indented. Every
value ends its own line.
-/
namespace OutOfBand.Yaml

/-- End the line, unless the text has ended it. -/
def endLine (cs : List Char) : List Char :=
  if (cs.getLast?.map isBreak).getD false then cs else cs ++ ['\n']

/-- Keys that stand before a colon on one line. -/
def isSimpleKey (key : String) : Bool := !key.toList.any isBreak && Text.byteLength key.toList ≤ 128

def numeral : Numeral → String
  | .int n => toString n
  | .float x => FloatFormat.yaml.render x

mutual

/-- What follows the colon of a key that stands at `indent`. -/
def afterKey (indent : Nat) : Json → List Char
  | .null => " null\n".toList
  | .bool true => " true\n".toList
  | .bool false => " false\n".toList
  | .number n => ' ' :: endLine (numeral n).toList
  | .string s => ' ' :: endLine (scalar (indent + 2) s)
  | .array [] => " []\n".toList
  | .array (item :: rest) => '\n' :: items indent (item :: rest)
  | .object [] => " \x7b\x7d\n".toList
  | .object (entry :: rest) => '\n' :: members (indent + 2) (entry :: rest)

/-- What follows the dash of an item, or the colon that stands alone, at `indent`. -/
def afterMark (indent : Nat) : Json → List Char
  | .null => " null\n".toList
  | .bool true => " true\n".toList
  | .bool false => " false\n".toList
  | .number n => ' ' :: endLine (numeral n).toList
  | .string s => ' ' :: endLine (scalar (indent + 2) s)
  | .array [] => " []\n".toList
  | .array (item :: rest) => ' ' :: '-' :: (afterMark (indent + 2) item ++ items (indent + 2) rest)
  | .object [] => " \x7b\x7d\n".toList
  | .object ((key, value) :: rest) =>
    let head :=
      if isSimpleKey key then scalar (indent + 4) key ++ ':' :: afterKey (indent + 2) value
      else '?' :: ' ' :: endLine (scalar (indent + 4) key) ++ indentation (indent + 2) ++
        ':' :: afterMark (indent + 2) value
    ' ' :: (head ++ members (indent + 2) rest)

def items (indent : Nat) : List Json → List Char
  | [] => []
  | item :: rest => indentation indent ++ '-' :: (afterMark indent item ++ items indent rest)

def members (indent : Nat) : List (String × Json) → List Char
  | [] => []
  | (key, value) :: rest =>
    let entry :=
      if isSimpleKey key then scalar (indent + 2) key ++ ':' :: afterKey indent value
      else '?' :: ' ' :: endLine (scalar (indent + 2) key) ++ indentation indent ++ ':' :: afterMark indent value
    indentation indent ++ entry ++ members indent rest

end

/-- A mapping as a document. -/
def document (entries : List (String × Json)) : String := String.ofList (members 0 entries)

end OutOfBand.Yaml
