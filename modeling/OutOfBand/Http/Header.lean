import OutOfBand.Text.Blank

/-! # Header lists

Headers in sending order. Names are compared without regard to case and kept in lower case.
-/
namespace OutOfBand.Http

abbrev Headers := List (String × String)

/-- The characters of a header name. -/
def isTokenChar (c : Char) : Bool :=
  c.isAlphanum || ['!', '#', '$', '%', '&', '\'', '*', '+', '-', '.', '^', '_', '\x60', '|', '~'].contains c

def isName (name : String) : Bool := !name.isEmpty && name.toList.all isTokenChar

/-- A value may hold anything but control characters; the tab is allowed. -/
def isValue (value : String) : Bool := value.toList.all (fun c => c == '\t' || (c.toNat ≥ 0x20 && c.toNat ≠ 0x7F))

/-- Printable ASCII and tabs, the values that can be read as text. -/
def isVisible (value : String) : Bool :=
  value.toList.all (fun c => c == '\t' || (c.toNat ≥ 0x20 && c.toNat < 0x7F))

def isWireBlank (c : Char) : Bool := c == ' ' || c == '\t'

namespace Headers

def append (headers : Headers) (name value : String) : Headers := headers ++ [(Text.lowerAscii name, value)]

def contains (headers : Headers) (name : String) : Bool := (List.lookup (Text.lowerAscii name) headers).isSome

/-- Add a header unless one of that name is there. -/
def default (headers : Headers) (name value : String) : Headers :=
  if headers.contains name then headers else headers.append name value

/-- The first value of a name, if it can be read as text. -/
def text? (headers : Headers) (name : String) : Option String :=
  (List.lookup (Text.lowerAscii name) headers).filter isVisible

/-- The headers as they are read off the wire: names in lower case, and values without the blanks around
them. -/
def trimmed (headers : Headers) : Headers :=
  headers.map (fun header => (Text.lowerAscii header.1, String.ofList
    (Text.dropEndWhile isWireBlank (header.2.toList.dropWhile isWireBlank))))

/-- Insert by name, behind those of the same name. -/
def insertSorted (entry : String × String) : Headers → Headers
  | [] => [entry]
  | other :: rest => if entry.1 < other.1 then entry :: other :: rest else other :: insertSorted entry rest

/-- By name; values of one name stay in order. -/
def sorted (headers : Headers) : Headers := headers.foldl (fun done entry => insertSorted entry done) []

end Headers

end OutOfBand.Http
