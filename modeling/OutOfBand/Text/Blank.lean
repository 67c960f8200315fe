/-! # Blank characters

White space and control characters in the sense of Unicode, and the trimming built on them.
-/
namespace OutOfBand.Text

/-- The property White_Space. -/
def isBlank (c : Char) : Bool :=
  let n := c.toNat
  (9 ≤ n && n ≤ 13) || n == 0x20 || n == 0x85 || n == 0xA0 || n == 0x1680 ||
    (0x2000 ≤ n && n ≤ 0x200A) || n == 0x2028 || n == 0x2029 || n == 0x202F || n == 0x205F || n == 0x3000

/-- The general category Cc. -/
def isControl (c : Char) : Bool := c.toNat < 0x20 || (0x7F ≤ c.toNat && c.toNat < 0xA0)

def isAsciiBlank (c : Char) : Bool := c == ' ' || c == '\t' || c == '\n' || c == '\x0c' || c == '\r'

def dropEndWhile (p : Char → Bool) (cs : List Char) : List Char := (cs.reverse.dropWhile p).reverse

def trimChars (cs : List Char) : List Char := dropEndWhile isBlank (cs.dropWhile isBlank)

/-- The text without white space at either end. -/
def trim (s : String) : String := String.ofList (trimChars s.toList)

def trimEnd (s : String) : String := String.ofList (dropEndWhile isBlank s.toList)

def isBlankText (s : String) : Bool := s.toList.all isBlank

/-- Split at every separator; the parts are one more than the separators. -/
def splitOn (p : Char → Bool) : List Char → List (List Char)
  | [] => [[]]
  | c :: rest =>
    if p c then [] :: splitOn p rest
    else match splitOn p rest with
      | [] => [[c]]
      | part :: parts => (c :: part) :: parts

/-- What stands after the last `/`, slashes at the end not counted. -/
def lastSegment (s : String) : String :=
  String.ofList (((splitOn (· == '/') (dropEndWhile (· == '/') s.toList)).getLast?).getD [])

/-- Whether `needle` occurs in `hay` at some place. -/
def occursIn (needle : List Char) : List Char → Bool
  | [] => needle.isEmpty
  | c :: rest => needle.isPrefixOf (c :: rest) || occursIn needle rest

def contains (s needle : String) : Bool := occursIn needle.toList s.toList

/-- The number of bytes of the UTF-8 form. -/
def byteLength : List Char → Nat
  | [] => 0
  | c :: rest => c.utf8Size + byteLength rest

def isAscii (c : Char) : Bool := c.toNat < 0x80

def asciiLower (c : Char) : Char := if 'A' ≤ c ∧ c ≤ 'Z' then Char.ofNat (c.toNat + 32) else c

def asciiUpper (c : Char) : Char := if 'a' ≤ c ∧ c ≤ 'z' then Char.ofNat (c.toNat - 32) else c

def lowerAscii (s : String) : String := String.ofList (s.toList.map asciiLower)

def upperAscii (s : String) : String := String.ofList (s.toList.map asciiUpper)

end OutOfBand.Text
