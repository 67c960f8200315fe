import OutOfBand.Text.Quoted
import OutOfBand.Text.Utf8
import OutOfBand.Url.Direction
import OutOfBand.Url.Joiner
import OutOfBand.Url.NameMap
import OutOfBand.Url.Punycode

/-! # Domain names

The ASCII form of a host name: the name is brought to its plain form, labels beyond ASCII are coded, and
labels that are coded already are checked.
-/
namespace OutOfBand.Url

/-- ASCII characters that no host name holds. -/
def isForbiddenInDomain (c : Char) : Bool :=
  c.toNat ≤ 0x20 || c.toNat == 0x7F ||
    ['%', '#', '/', ':', '<', '>', '?', '@', '[', '\\', ']', '^', '|'].contains c

/-- Characters that are refused although they can be shown: special forms that hold a dot or a sign. -/
def refusedLines : List String := [
  "2024-2026 2488-249b 2ff0-2ffb 33c2 33c7 33d8 fe12 fe19 fe30 fe52 fffc-fffd 1f100"]

def refused : List Text.Run := Text.Run.ofLines refusedLines

/-- Characters beyond ASCII that a label may hold. -/
def isValidBeyondAscii (c : Char) : Bool :=
  Text.isMark c || isJoiner c ||
    !(Text.inRanges Text.unprintableRanges c || (Text.runOf? refused c).isSome)

/-- Whether a label in plain form is one of a host name. -/
def isValidLabel (label : List Char) : Bool :=
  label.all (fun c => if Text.isAscii c then !isForbiddenInDomain c else isValidBeyondAscii c) &&
    !(label.head?.map Text.isMark).getD false && joinersFit [] label

def codeMark : List Char := ['x', 'n', '-', '-']

/-- The characters behind a coded label. They have to be in plain form, and some of them beyond ASCII. -/
def decoded? (code : List Char) : Option (List Char) := do
  let label ← Punycode.decode code
  if label.all Text.isAscii || codeMark.isPrefixOf label || plainName label != label then none else some label

/-- The characters that a label in plain form shows, if it is one of a host name. -/
def shown? (label : List Char) : Option (List Char) :=
  if codeMark.isPrefixOf label then
    if label.all Text.isAscii then (decoded? (label.drop codeMark.length)).filter isValidLabel else none
  else if isValidLabel label then some label
  else none

def asciiLabel (label : List Char) : List Char :=
  if label.all Text.isAscii then label else codeMark ++ Punycode.encode label

def joinWith (c : Char) : List (List Char) → List Char
  | [] => []
  | [part] => part
  | part :: rest => part ++ c :: joinWith c rest

/-- The ASCII form of a name, if it has one. -/
def asciiDomain? (name : List Char) : Option (List Char) := do
  let labels := Text.splitOn (· == '.') (plainName name)
  let shown ← labels.mapM shown?
  if areOneWay shown then some (joinWith '.' (labels.map asciiLabel)) else none

end OutOfBand.Url
