import OutOfBand.Json.Basic
import OutOfBand.Text.Blank

/-! # Reading JSON

A strict reader. Values nest at most 127 deep, the last of several equal keys of an object is kept,
and half a surrogate pair is refused. A fault knows how many bytes of the text lie after its place,
from which its line and column are found.
-/
namespace OutOfBand.Json

/-- Why a text is not JSON. -/
inductive Malformation where
  | endInList
  | endInObject
  | endInString
  | endInValue
  | expectedColon
  | expectedCommaOrBracket
  | expectedCommaOrBrace
  | expectedWord
  | expectedValue
  | invalidEscape
  | invalidNumber
  | numberOutOfRange
  | controlCharacter
  | keyNotString
  | loneSurrogate
  | trailingComma
  | trailingText
  | unpairedSurrogate
  | tooDeep
deriving DecidableEq, Repr

def Malformation.message : Malformation → String
  | .endInList => "EOF while parsing a list"
  | .endInObject => "EOF while parsing an object"
  | .endInString => "EOF while parsing a string"
  | .endInValue => "EOF while parsing a value"
  | .expectedColon => "expected `:`"
  | .expectedCommaOrBracket => "expected `,` or `]`"
  | .expectedCommaOrBrace => "expected `,` or `\x7d`"
  | .expectedWord => "expected ident"
  | .expectedValue => "expected value"
  | .invalidEscape => "invalid escape"
  | .invalidNumber => "invalid number"
  | .numberOutOfRange => "number out of range"
  | .controlCharacter => "control character (\\u0000-\\u001F) found while parsing a string"
  | .keyNotString => "key must be a string"
  | .loneSurrogate => "lone leading surrogate in hex escape"
  | .trailingComma => "trailing comma"
  | .trailingText => "trailing characters"
  | .unpairedSurrogate => "unexpected end of hex escape"
  | .tooDeep => "recursion limit exceeded"

structure Fault where
  cause : Malformation
  /-- The bytes after the place of the fault. -/
  left : Nat
deriving DecidableEq, Repr

/-- A reader gives what it has read and the rest of the text. -/
abbrev Reading := Except Fault

/-- A fault in front of `rest`. -/
def faultAt (cause : Malformation) (rest : List Char) : Reading α :=
  .error ⟨cause, Text.byteLength rest⟩

/-- A fault after the first byte of `rest`. -/
def faultIn (cause : Malformation) (rest : List Char) : Reading α :=
  .error ⟨cause, Text.byteLength rest - 1⟩

def isSpace (c : Char) : Bool := c == ' ' || c == '\n' || c == '\t' || c == '\r'

def skipSpace (s : List Char) : List Char := s.dropWhile isSpace

/-- The rest of a word whose first letter has been read. -/
def readWord (value : α) : List Char → List Char → Reading (α × List Char)
  | [], s => .ok (value, s)
  | _ :: _, [] => faultAt .endInValue []
  | w :: word, c :: rest => if c = w then readWord value word rest else faultIn .expectedWord (c :: rest)

/-! ## Numbers -/

def startsWithDigit : List Char → Bool
  | c :: _ => c.isDigit
  | [] => false

def digitValue (c : Char) : Nat := c.toNat - 0x30

/-- Append digits to `n` as long as it stays below `2 ^ 64`; also how many were taken. -/
def takeDigits (n : Nat) (count : Nat) : List Char → Nat × Nat × List Char
  | [] => (n, count, [])
  | c :: rest =>
    if c.isDigit && n * 10 + digitValue c < Nat.pow 2 64 then takeDigits (n * 10 + digitValue c) (count + 1) rest
    else (n, count, c :: rest)

def powerOfTen (p : Nat) : Binary64 := .ofNat (Nat.pow 10 p)

/-- `f * 10 ^ power` in double arithmetic, one factor of at most `10 ^ 308` at a time. Nothing when
the result is too large. -/
def scale : Nat → Binary64 → Int → Option Binary64
  | 0, f, _ => some f
  | fuel + 1, f, power =>
    if power.natAbs ≤ 308 then
      if 0 ≤ power then
        let product := f.mul (powerOfTen power.natAbs)
        if product.isFinite then some product else none
      else some (f.div (powerOfTen power.natAbs))
    else if f.code = 0 then some f
    else if 0 ≤ power then none
    else scale fuel (f.div (powerOfTen 308)) (power + 308)

def signed (positive : Bool) (f : Binary64) : Binary64 := if positive then f else f.neg

def finishFloat (positive : Bool) (significand : Nat) (power : Int) (rest : List Char) : Reading (Numeral × List Char) :=
  match scale 8 (.ofNat significand) power with
  | some f => .ok (.float (signed positive f), rest)
  | none => faultAt .numberOutOfRange rest

/-- The digits of an exponent. Too large a one gives zero or is out of range. -/
def readExponentDigits (positive : Bool) (significand : Nat) (power : Int) (positiveExponent : Bool)
    (exponent : Nat) : List Char → Reading (Numeral × List Char)
  | [] => finishFloat positive significand
      (if positiveExponent then power + exponent else power - exponent) []
  | c :: rest =>
    if c.isDigit then
      let next := exponent * 10 + digitValue c
      if next < Nat.pow 2 31 then readExponentDigits positive significand power positiveExponent next rest
      else if significand ≠ 0 ∧ positiveExponent then faultAt .numberOutOfRange rest
      else .ok (.float (signed positive .zero), rest.dropWhile Char.isDigit)
    else finishFloat positive significand
      (if positiveExponent then power + exponent else power - exponent) (c :: rest)

/-- What follows the letter of an exponent. -/
def readExponent (positive : Bool) (significand : Nat) (power : Int) (s : List Char) : Reading (Numeral × List Char) :=
  let (positiveExponent, s) := match s with
    | '+' :: rest => (true, rest)
    | '-' :: rest => (false, rest)
    | s => (true, s)
  match s with
  | [] => faultAt .endInValue []
  | c :: rest =>
    if c.isDigit then readExponentDigits positive significand power positiveExponent (digitValue c) rest
    else faultIn .invalidNumber (c :: rest)

def exponentOrEnd (positive : Bool) (significand : Nat) (power : Int) : List Char → Reading (Numeral × List Char)
  | 'e' :: rest => readExponent positive significand power rest
  | 'E' :: rest => readExponent positive significand power rest
  | rest => finishFloat positive significand power rest

/-- What follows the decimal point. Digits that no longer fit are dropped. -/
def readFraction (positive : Bool) (significand : Nat) (power : Int) (s : List Char) : Reading (Numeral × List Char) :=
  let (n, count, rest) := takeDigits significand 0 s
  if startsWithDigit rest then exponentOrEnd positive n (power - count) (rest.dropWhile Char.isDigit)
  else if count = 0 then
    match rest with
    | [] => faultAt .endInValue []
    | _ => faultIn .invalidNumber rest
  else exponentOrEnd positive n (power - count) rest

/-- The rest of a whole part too long for a whole number: its digits only count as a power. -/
def readLongInteger (positive : Bool) (significand : Nat) (s : List Char) : Reading (Numeral × List Char) :=
  let rest := s.dropWhile Char.isDigit
  let power : Int := (s.takeWhile Char.isDigit).length
  match rest with
  | '.' :: rest => readFraction positive significand power rest
  | rest => exponentOrEnd positive significand power rest

/-- A whole number below zero is kept as one down to `-2 ^ 63`; `-0` is a double. -/
def wholeNumeral (positive : Bool) (n : Nat) : Numeral :=
  if positive then .int n
  else if n = 0 ∨ Nat.pow 2 63 < n then .float (Binary64.ofNat n).neg
  else .int (-n)

def readAfterWhole (positive : Bool) (n : Nat) : List Char → Reading (Numeral × List Char)
  | '.' :: rest => readFraction positive n 0 rest
  | 'e' :: rest => readExponent positive n 0 rest
  | 'E' :: rest => readExponent positive n 0 rest
  | rest => .ok (wholeNumeral positive n, rest)

def readNumber (positive : Bool) : List Char → Reading (Numeral × List Char)
  | [] => faultAt .endInValue []
  | c :: rest =>
    if c = '0' then
      if startsWithDigit rest then faultIn .invalidNumber rest else readAfterWhole positive 0 rest
    else if c.isDigit then
      let (n, _, tail) := takeDigits (digitValue c) 1 rest
      if startsWithDigit tail then readLongInteger positive n tail else readAfterWhole positive n tail
    else faultIn .invalidNumber (c :: rest)

/-! ## Strings -/

def hexValue? (c : Char) : Option Nat :=
  if '0' ≤ c ∧ c ≤ '9' then some (c.toNat - 0x30)
  else if 'a' ≤ c ∧ c ≤ 'f' then some (c.toNat - 0x61 + 10)
  else if 'A' ≤ c ∧ c ≤ 'F' then some (c.toNat - 0x41 + 10)
  else none

/-- The value of four hexadecimal digits. -/
def fourHex? : List Char → Option (Nat × List Char)
  | a :: b :: c :: d :: rest => do
    let a ← hexValue? a
    let b ← hexValue? b
    let c ← hexValue? c
    let d ← hexValue? d
    some (((a * 16 + b) * 16 + c) * 16 + d, rest)
  | _ => none

def readFourHex (s : List Char) : Reading (Nat × List Char) :=
  match fourHex? s with
  | some (n, rest) => .ok (n, rest)
  | none =>
    if Text.byteLength s < 4 then faultAt .endInString []
    else .error ⟨.invalidEscape, Text.byteLength s - 4⟩

/-- One given character, or a fault after the byte that stands there. -/
def expectInString (wanted : Char) : List Char → Reading (Unit × List Char)
  | [] => faultAt .endInString []
  | c :: rest => if c = wanted then .ok ((), rest) else faultIn .unpairedSurrogate (c :: rest)

/-- What follows `\u`: one code unit, or a leading and a trailing surrogate. -/
def readUnicodeEscape (s : List Char) : Reading (Char × List Char) := do
  let (n, rest) ← readFourHex s
  if 0xDC00 ≤ n ∧ n ≤ 0xDFFF then faultAt .loneSurrogate rest
  else if n < 0xD800 ∨ 0xDBFF < n then .ok (Char.ofNat n, rest)
  else
    let (_, rest) ← expectInString '\\' rest
    let (_, rest) ← expectInString 'u' rest
    let (m, rest) ← readFourHex rest
    if m < 0xDC00 ∨ 0xDFFF < m then faultAt .loneSurrogate rest
    else .ok (Char.ofNat ((n - 0xD800) * 1024 + (m - 0xDC00) + 0x10000), rest)

/-- What follows a backslash. -/
def readEscape : List Char → Reading (Char × List Char)
  | [] => faultAt .endInString []
  | c :: rest =>
    if c = '"' ∨ c = '\\' ∨ c = '/' then .ok (c, rest)
    else if c = 'b' then .ok ('\x08', rest)
    else if c = 'f' then .ok ('\x0c', rest)
    else if c = 'n' then .ok ('\n', rest)
    else if c = 'r' then .ok ('\r', rest)
    else if c = 't' then .ok ('\t', rest)
    else if c = 'u' then readUnicodeEscape rest
    else faultIn .invalidEscape (c :: rest)

/-- The rest of a string whose opening quote has been read; `seen` holds its characters so far, the
latest first. -/
def readString : Nat → List Char → List Char → Reading (String × List Char)
  | _, _, [] => faultAt .endInString []
  | 0, _, s => faultAt .tooDeep s
  | fuel + 1, seen, c :: rest =>
    if c = '"' then .ok (String.ofList seen.reverse, rest)
    else if c = '\\' then do
      let (e, rest) ← readEscape rest
      readString fuel (e :: seen) rest
    else if c.toNat < 0x20 then faultIn .controlCharacter (c :: rest)
    else readString fuel (c :: seen) rest

/-! ## Values -/

/-- The colon between a key and its value. -/
def readColon (s : List Char) : Reading (Unit × List Char) :=
  match skipSpace s with
  | [] => faultAt .endInObject []
  | ':' :: rest => .ok ((), rest)
  | rest => faultIn .expectedColon rest

/-- Whether another item follows, and the text in front of it. -/
def nextItem (first : Bool) (s : List Char) : Reading (Bool × List Char) :=
  match skipSpace s with
  | [] => faultAt .endInList []
  | ']' :: rest => .ok (false, rest)
  | c :: rest =>
    if first then .ok (true, c :: rest)
    else if c = ',' then
      match skipSpace rest with
      | [] => faultAt .endInValue []
      | ']' :: tail => faultIn .trailingComma (']' :: tail)
      | tail => .ok (true, tail)
    else faultIn .expectedCommaOrBracket (c :: rest)

/-- Whether another member follows, and the text after the quote that opens its key. -/
def nextMember (first : Bool) (s : List Char) : Reading (Bool × List Char) :=
  match skipSpace s with
  | [] => faultAt .endInObject []
  | '\x7d' :: rest => .ok (false, rest)
  | c :: rest =>
    if first then (if c = '"' then .ok (true, rest) else faultIn .keyNotString (c :: rest))
    else if c = ',' then
      match skipSpace rest with
      | [] => faultAt .endInValue []
      | '"' :: tail => .ok (true, tail)
      | '\x7d' :: tail => faultIn .trailingComma ('\x7d' :: tail)
      | tail => faultIn .keyNotString tail
    else faultIn .expectedCommaOrBrace (c :: rest)

mutual

/-- A value in front of which space may stand. `depth` counts the levels that may still open. -/
def readValue (depth : Nat) : Nat → List Char → Reading (Json × List Char)
  | 0, s => faultAt .tooDeep s
  | fuel + 1, s =>
    match skipSpace s with
    | [] => faultAt .endInValue []
    | c :: rest =>
      if c = 'n' then readWord .null ['u', 'l', 'l'] rest
      else if c = 't' then readWord (.bool true) ['r', 'u', 'e'] rest
      else if c = 'f' then readWord (.bool false) ['a', 'l', 's', 'e'] rest
      else if c = '-' then do
        let (n, rest) ← readNumber false rest
        .ok (.number n, rest)
      else if c.isDigit then do
        let (n, rest) ← readNumber true (c :: rest)
        .ok (.number n, rest)
      else if c = '"' then do
        let (text, rest) ← readString (rest.length + 1) [] rest
        .ok (.string text, rest)
      else if c = '[' then
        match depth with
        | 0 => faultIn .tooDeep (c :: rest)
        | depth + 1 => readItems depth true [] fuel rest
      else if c = '\x7b' then
        match depth with
        | 0 => faultIn .tooDeep (c :: rest)
        | depth + 1 => readMembers depth true [] fuel rest
      else faultIn .expectedValue (c :: rest)

/-- The rest of an array; `seen` holds the items so far, the latest first. -/
def readItems (depth : Nat) (first : Bool) (seen : List Json) : Nat → List Char → Reading (Json × List Char)
  | 0, s => faultAt .tooDeep s
  | fuel + 1, s => do
    let (more, rest) ← nextItem first s
    if more then
      let (item, rest) ← readValue depth fuel rest
      readItems depth false (item :: seen) fuel rest
    else .ok (.array seen.reverse, rest)

/-- The rest of an object; `seen` holds the members so far, the latest first. -/
def readMembers (depth : Nat) (first : Bool) (seen : List (String × Json)) : Nat → List Char → Reading (Json × List Char)
  | 0, s => faultAt .tooDeep s
  | fuel + 1, s => do
    let (more, rest) ← nextMember first s
    if more then
      let (key, rest) ← readString (rest.length + 1) [] rest
      let (_, rest) ← readColon rest
      let (value, rest) ← readValue depth fuel rest
      readMembers depth false ((key, value) :: seen) fuel rest
    else .ok (.ofEntries seen.reverse, rest)

end

/-- The levels of nesting that a text may have. -/
def depthLimit : Nat := 127

def readChars (s : List Char) : Reading Json := do
  let (value, rest) ← readValue depthLimit (2 * s.length + 2) s
  match skipSpace rest with
  | [] => .ok value
  | rest => faultIn .trailingText rest

/-- Line and column after the first `index` bytes of a text, lines counted from one. -/
def placeAfter (index line column : Nat) : List Char → Nat × Nat
  | [] => (line, column)
  | c :: rest =>
    if index = 0 then (line, column)
    else if c = '\n' then placeAfter (index - 1) (line + 1) 0 rest
    else placeAfter (index - c.utf8Size) line (column + min c.utf8Size index) rest

def Fault.message (fault : Fault) (text : List Char) : String :=
  let (line, column) := placeAfter (Text.byteLength text - fault.left) 1 0 text
  s!"{fault.cause.message} at line {line} column {column}"

/-- The value of a text, or the message of its first fault. -/
def read (text : String) : Except String Json :=
  (readChars text.toList).mapError (fun fault => fault.message text.toList)

def read? (text : String) : Option Json := (readChars text.toList).toOption

end OutOfBand.Json
