import OutOfBand.Number.Text
import OutOfBand.Text.Quoted

/-! # YAML scalars

How a text is written as a YAML scalar: plain where a reader gets the same text back, a literal block
when it has line feeds, else in quotes. Text that a reader would take for another kind of value is
quoted.
-/
namespace OutOfBand.Yaml

def isBreak (c : Char) : Bool :=
  c == '\n' || c == '\r' || c == '\x85' || c == '\u2028' || c == '\u2029'

/-- Characters that may stand in the text as they are. -/
def isPrintable (c : Char) : Bool :=
  let n := c.toNat
  n == 0x0A || (0x20 ≤ n && n ≤ 0x7E) || (0xA0 ≤ n && n ≤ 0xD7FF) ||
    (0xE000 ≤ n && n ≤ 0xFFFD && n != 0xFEFF) || 0x10000 ≤ n

/-- Whether a place is blank: a space, a tab, a line break, or the end of the text. -/
def isGap : Option Char → Bool
  | none => true
  | some c => c == ' ' || c == '\t' || c == '\x00' || isBreak c

/-! ## Texts that read as other values -/

/-- More than one digit, the first a zero. -/
def hasLeadingZero (cs : List Char) : Bool :=
  let digits := match cs with
    | '-' :: rest => rest
    | '+' :: rest => rest
    | cs => cs
  match digits with
  | '0' :: d :: rest => (d :: rest).all Char.isDigit
  | _ => false

def basedWhole? (limit : Nat) : List Char → Option Nat
  | '0' :: 'x' :: digits => (whole? 16 digits).filter (· ≤ limit)
  | '0' :: 'o' :: digits => (whole? 8 digits).filter (· ≤ limit)
  | '0' :: 'b' :: digits => (whole? 2 digits).filter (· ≤ limit)
  | _ => none

def readsAsWhole (cs : List Char) : Bool :=
  match cs with
  | '-' :: rest => (basedWhole? (Nat.pow 2 127) rest).isSome || (whole? 10 rest).isSome
  | '+' :: rest => (basedWhole? (Nat.pow 2 128 - 1) rest).isSome || (whole? 10 rest).isSome
  | cs => (basedWhole? (Nat.pow 2 128 - 1) cs).isSome || (whole? 10 cs).isSome

/-- A finite double, or one of the names of infinity and of the undefined number. -/
def readsAsDouble (cs : List Char) : Bool :=
  let unsigned := match cs with
    | '+' :: rest => rest
    | cs => cs
  [".inf", ".Inf", ".INF"].contains (String.ofList unsigned) ||
    ["-.inf", "-.Inf", "-.INF", ".nan", ".NaN", ".NAN"].contains (String.ofList cs) ||
    match double? cs with
    | some x => x.isFinite
    | none => false

/-- Null, a truth value or a number to a reader, or close to a number. -/
def readsAsOther (s : String) : Bool :=
  let cs := s.toList
  ["", "~", "null", "Null", "NULL", "true", "True", "TRUE", "false", "False", "FALSE"].contains s ||
    hasLeadingZero cs || readsAsWhole cs || readsAsDouble cs

/-! ## Choice of style -/

inductive Style where
  | plain
  | single
  | double
  | literal
deriving DecidableEq, Repr

/-- A start that means something else in a document. -/
def startsIndicator : List Char → Bool
  | [] => false
  | '-' :: '-' :: '-' :: _ => true
  | '.' :: '.' :: '.' :: _ => true
  | c :: rest =>
    ['#', ',', '[', ']', '\x7b', '\x7d', '&', '*', '!', '|', '>', '\'', '"', '%', '@', '\x60'].contains c ||
      (['?', ':', '-'].contains c && isGap rest.head?)

/-- A colon before a gap or a number sign behind one, after the start. -/
def holdsIndicator : List Char → Bool
  | c :: d :: rest =>
    (d == ':' && isGap rest.head?) || (d == '#' && isGap (some c)) || holdsIndicator (d :: rest)
  | _ => false

/-- Some character with `p` stands right before one with `q`. -/
def adjacent (p q : Char → Bool) : List Char → Bool
  | c :: d :: rest => (p c && q d) || adjacent p q (d :: rest)
  | _ => false

def isSpace (c : Char) : Bool := c == ' '

def isBlankChar (c : Char) : Bool := isSpace c || isBreak c

def hasSpecial (cs : List Char) : Bool := !cs.all isPrintable || adjacent isSpace isBreak cs

/-- Whether the text can stand without quotes. -/
def allowsPlain (cs : List Char) : Bool :=
  !(startsIndicator cs || holdsIndicator cs || hasSpecial cs || cs.any isBreak ||
    (cs.head?.map isBlankChar).getD false || (cs.getLast?.map isBlankChar).getD false)

/-- Whether the text can stand in single quotes. -/
def allowsSingle (cs : List Char) : Bool := !(hasSpecial cs || adjacent isBreak isSpace cs)

/-- Whether the text can stand as a literal block. -/
def allowsLiteral (cs : List Char) : Bool := !(hasSpecial cs || (cs.getLast?.map isSpace).getD false)

/-- The style of a text. -/
def styleOf (s : String) : Style :=
  let cs := s.toList
  if cs.contains '\n' then (if allowsLiteral cs then .literal else .double)
  else if !readsAsOther s && allowsPlain cs then .plain
  else if allowsSingle cs then .single
  else .double

/-! ## The written scalar -/

def indentation (n : Nat) : List Char := List.replicate n ' '

/-- Quotes doubled; a line that follows a break inside starts with the indentation. -/
def singleBody (indent : Nat) (afterBreak : Bool) : List Char → List Char
  | [] => if afterBreak then indentation indent else []
  | c :: rest =>
    if isBreak c then c :: singleBody indent true rest
    else
      (if afterBreak then indentation indent else []) ++ (if c = '\'' then ['\'', '\''] else [c]) ++
        singleBody indent false rest

/-- The digits of a number in upper-case hexadecimal, padded to a width. -/
def upperHex (width n : Nat) : List Char :=
  let digits := (Text.hexDigits n).map Text.asciiUpper
  List.replicate (width - digits.length) '0' ++ digits

def escapeNames : List (Char × Char) := [
  ('\x00', '0'), ('\x07', 'a'), ('\x08', 'b'), ('\t', 't'), ('\n', 'n'), ('\x0b', 'v'), ('\x0c', 'f'),
  ('\r', 'r'), ('\x1b', 'e'), ('"', '"'), ('\\', '\\'), ('\x85', 'N'), ('\xa0', '_'), ('\u2028', 'L'),
  ('\u2029', 'P')]

def doubleChar (c : Char) : List Char :=
  if isPrintable c && !isBreak c && c != '"' && c != '\\' then [c]
  else match escapeNames.lookup c with
    | some name => ['\\', name]
    | none =>
      let n := c.toNat
      if n ≤ 0xFF then '\\' :: 'x' :: upperHex 2 n
      else if n ≤ 0xFFFF then '\\' :: 'u' :: upperHex 4 n
      else '\\' :: 'U' :: upperHex 8 n

/-- The lines of a literal block, each behind the indentation unless it is empty. -/
def literalBody (indent : Nat) (afterBreak : Bool) : List Char → List Char
  | [] => []
  | c :: rest =>
    if isBreak c then c :: literalBody indent true rest
    else (if afterBreak then indentation indent else []) ++ c :: literalBody indent false rest

/-- A digit when the first line starts blank, then a sign that tells how the text ends. -/
def literalHints (cs : List Char) : List Char :=
  (if (cs.head?.map isBlankChar).getD false then ['2'] else []) ++
    match cs.reverse with
    | last :: before =>
      if !isBreak last then ['-']
      else match before with
        | [] => ['+']
        | c :: _ => if isBreak c then ['+'] else []
    | [] => ['-']

/-- A text as a scalar; `indent` is where further lines of it start. -/
def scalar (indent : Nat) (s : String) : List Char :=
  let cs := s.toList
  match styleOf s with
  | .plain => cs
  | .single => '\'' :: (singleBody indent false cs ++ ['\''])
  | .double => '"' :: (cs.flatMap doubleChar ++ ['"'])
  | .literal => '|' :: (literalHints cs ++ '\n' :: literalBody indent true cs)

end OutOfBand.Yaml
