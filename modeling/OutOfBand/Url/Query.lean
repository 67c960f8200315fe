import OutOfBand.Fields
import OutOfBand.Url.Reader

/-! # Query parameters

Parameters as key and value pairs joined by ampersands. Each is form-encoded, which escapes all but letters, digits and
four marks and writes a space as a plus, and every plus is then written as `%20`. What is put into a URL as its query is
escaped like any other query.
-/
namespace OutOfBand.Url

def isUnreserved (c : Char) : Bool := c.isAlphanum || c == '*' || c == '-' || c == '.' || c == '_'

def formEncode (cs : List Char) : List Char :=
  cs.flatMap (fun c => if c = ' ' then ['+'] else percentChar (!isUnreserved ·) c)

/-- A plus of the text itself is escaped by the form encoding, so every plus that is left stands for a space. -/
def encodeComponent (s : String) : List Char :=
  (formEncode s.toList).flatMap (fun c => if c = '+' then ['%', '2', '0'] else [c])

def encodePair (entry : String × String) : List Char :=
  encodeComponent entry.1 ++ '=' :: encodeComponent entry.2

def encodePairs (entries : Fields String) : List Char := joinWith '&' (List.map encodePair entries)

/-- Put a query in. Tabs and line breaks do not count, and what cannot stand in a query is escaped. -/
def setQuery (url : Url) (query : List Char) : Url :=
  { url with query := some (queryEscape url.scheme (query.filter (!isInnerBlank ·))) }

/-- Add parameters behind the query that is there. -/
def addParameters (url : Url) (entries : Fields String) : Url :=
  if entries.isEmpty then url
  else url.setQuery (match url.query with
    | some (c :: rest) => c :: rest ++ '&' :: encodePairs entries
    | _ => encodePairs entries)

end OutOfBand.Url
