import OutOfBand.Number.Text
import OutOfBand.Toml.Basic

/-! # Reading TOML

A document is read line by line: blank lines, comments, headers, and keys with their values. Reading
answers only whether the text is a document, and which.
-/
namespace OutOfBand.Toml

def isBlank (c : Char) : Bool := c == ' ' || c == '\t'

def skipBlank (cs : List Char) : List Char := cs.dropWhile isBlank

/-- Characters that stand for themselves in comments and strings. -/
def isPlain (c : Char) : Bool := c == '\t' || (0x20 ≤ c.toNat && c.toNat != 0x7F)

/-- A line break, if one comes next. -/
def newline? : List Char → Option (List Char)
  | '\n' :: rest => some rest
  | '\r' :: '\n' :: rest => some rest
  | _ => none

/-- Blanks and a comment, up to the end of the line. -/
def skipComment (cs : List Char) : List Char :=
  match skipBlank cs with
  | '#' :: rest => rest.dropWhile isPlain
  | rest => rest

/-- The rest of a line has to be empty but for a comment. -/
def endOfLine? (cs : List Char) : Option (List Char) :=
  match skipComment cs with
  | [] => some []
  | rest => newline? rest

/-- Blanks, comments and line breaks; `fuel` bounds the lines. -/
def skipLines : Nat → List Char → List Char
  | 0, cs => cs
  | fuel + 1, cs =>
    match newline? (skipComment cs) with
    | some rest => skipLines fuel rest
    | none => skipBlank cs

/-! ## Strings -/

def scalarOf? (digits : List Char) : Option Char := do
  let n ← whole? 16 digits
  if n < 0xD800 ∨ (0xDFFF < n ∧ n < 0x110000) then some (Char.ofNat n) else none

/-- What follows a backslash in a string. -/
def escape? : List Char → Option (Char × List Char)
  | 'b' :: rest => some ('\x08', rest)
  | 't' :: rest => some ('\t', rest)
  | 'n' :: rest => some ('\n', rest)
  | 'f' :: rest => some ('\x0c', rest)
  | 'r' :: rest => some ('\r', rest)
  | '"' :: rest => some ('"', rest)
  | '\\' :: rest => some ('\\', rest)
  | 'u' :: rest =>
    if (rest.take 4).length = 4 then (scalarOf? (rest.take 4)).map (fun c => (c, rest.drop 4)) else none
  | 'U' :: rest =>
    if (rest.take 8).length = 8 then (scalarOf? (rest.take 8)).map (fun c => (c, rest.drop 8)) else none
  | _ => none

/-- The rest of a string on one line. -/
def basic? : Nat → List Char → List Char → Option (String × List Char)
  | 0, _, _ => none
  | _ + 1, seen, '"' :: rest => some (String.ofList seen.reverse, rest)
  | fuel + 1, seen, '\\' :: rest => do
    let (c, rest) ← escape? rest
    basic? fuel (c :: seen) rest
  | fuel + 1, seen, c :: rest => if isPlain c then basic? fuel (c :: seen) rest else none
  | _ + 1, _, [] => none

def literal? (cs : List Char) : Option (String × List Char) :=
  let text := cs.takeWhile (fun c => isPlain c && c != '\'')
  match cs.drop text.length with
  | '\'' :: rest => some (String.ofList text, rest)
  | _ => none

/-- Up to two quotes right before the three that end a string belong to it. -/
def closing? (quote : Char) (cs : List Char) : Option (List Char × List Char) :=
  let quotes := (cs.takeWhile (· == quote)).length
  if quotes < 3 then none
  else
    let extra := min (quotes - 3) 2
    some (List.replicate extra quote, cs.drop (extra + 3))

/-- White space and line breaks after a backslash at the end of a line. -/
def skipContinuation : List Char → List Char
  | '\r' :: '\n' :: rest => skipContinuation rest
  | '\n' :: rest => skipContinuation rest
  | c :: rest => if isBlank c then skipContinuation rest else c :: rest
  | [] => []

/-- The rest of a string over several lines, with or without escapes. -/
def multiline? (quote : Char) : Nat → List Char → List Char → Option (String × List Char)
  | 0, _, _ => none
  | fuel + 1, seen, cs =>
    match closing? quote cs with
    | some (extra, rest) => some (String.ofList (seen.reverse ++ extra), rest)
    | none =>
      match cs with
      | [] => none
      | '\r' :: '\n' :: rest => multiline? quote fuel ('\n' :: seen) rest
      | '\n' :: rest => multiline? quote fuel ('\n' :: seen) rest
      | '\\' :: rest =>
        if quote == '\'' then multiline? quote fuel ('\\' :: seen) rest
        else
          match newline? (skipBlank rest) with
          | some _ => multiline? quote fuel seen (skipContinuation rest)
          | none => do
            let (c, rest) ← escape? rest
            multiline? quote fuel (c :: seen) rest
      | c :: rest => if isPlain c then multiline? quote fuel (c :: seen) rest else none

/-- A line break right behind the opening quotes does not count. -/
def afterOpening (cs : List Char) : List Char := (newline? cs).getD cs

def string? (cs : List Char) : Option (String × List Char) :=
  match cs with
  | '"' :: '"' :: '"' :: rest => multiline? '"' (rest.length + 1) [] (afterOpening rest)
  | '\'' :: '\'' :: '\'' :: rest => multiline? '\'' (rest.length + 1) [] (afterOpening rest)
  | '"' :: rest => basic? (rest.length + 1) [] rest
  | '\'' :: rest => literal? rest
  | _ => none

/-! ## Numbers and times -/

/-- Digits with single underscores between them. -/
def separated? (isDigit : Char → Bool) : List Char → Option (List Char)
  | [] => none
  | [c] => if isDigit c then some [c] else none
  | c :: '_' :: rest => if isDigit c then (separated? isDigit rest).map (c :: ·) else none
  | c :: rest => if isDigit c then (separated? isDigit rest).map (c :: ·) else none

def isDigitOf (base : Nat) (c : Char) : Bool := (digitOf? base c).isSome

def splitSign : List Char → Bool × List Char
  | '-' :: rest => (true, rest)
  | '+' :: rest => (false, rest)
  | cs => (false, cs)

/-- Decimal digits without a zero in front. -/
def decimal? (cs : List Char) : Option (List Char) := do
  let digits ← separated? Char.isDigit cs
  if digits.head? = some '0' ∧ digits.length ≠ 1 then none else some digits

def fits (n : Int) : Option Int := if -Nat.pow 2 63 ≤ n ∧ n < Nat.pow 2 63 then some n else none

def based? (base : Nat) (cs : List Char) : Option Int := do
  fits (← whole? base (← separated? (isDigitOf base) cs))

def integer? (cs : List Char) : Option Int :=
  match cs with
  | '0' :: 'x' :: digits => based? 16 digits
  | '0' :: 'o' :: digits => based? 8 digits
  | '0' :: 'b' :: digits => based? 2 digits
  | cs => do
    let (negative, rest) := splitSign cs
    let n ← whole? 10 (← decimal? rest)
    fits (if negative then -(n : Int) else n)

def isExponentMark (c : Char) : Bool := c == 'e' || c == 'E'

/-- A float: a decimal whole, then a fraction or an exponent or both. What is too large is refused, but
below zero it is infinite. -/
def float? (cs : List Char) : Option Binary64 := do
  let (negative, rest) := splitSign cs
  if rest = "inf".toList then some ⟨negative, Binary64.infiniteCode⟩
  else if rest = "nan".toList then some ⟨negative, Binary64.infiniteCode + 1⟩
  else
    let mantissa := rest.takeWhile (!isExponentMark ·)
    let exponent ← match rest.drop mantissa.length with
      | [] => some []
      | _ :: digits => do
        let (negative, digits) := splitSign digits
        let digits ← separated? Char.isDigit digits
        some ('e' :: ((if negative then ['-'] else []) ++ digits))
    let whole ← decimal? (mantissa.takeWhile (· != '.'))
    let fraction ← match mantissa.dropWhile (· != '.') with
      | [] => some []
      | _ :: digits => (separated? Char.isDigit digits).map ('.' :: ·)
    if fraction.isEmpty && exponent.isEmpty then none
    else
      let magnitude ← double? (whole ++ fraction ++ exponent)
      if magnitude.isFinite || negative then some { magnitude with negative := negative } else none

def pair? (a b : Char) : Option Nat := whole? 10 [a, b]

def isLeap (year : Nat) : Bool := year % 4 == 0 && (year % 100 != 0 || year % 400 == 0)

def daysIn (year month : Nat) : Nat :=
  if month = 2 then (if isLeap year then 29 else 28)
  else if [4, 6, 9, 11].contains month then 30
  else 31

/-- A date, and what follows it. -/
def date? : List Char → Option (List Char)
  | y1 :: y2 :: y3 :: y4 :: '-' :: m1 :: m2 :: '-' :: d1 :: d2 :: rest => do
    let year ← whole? 10 [y1, y2, y3, y4]
    let month ← pair? m1 m2
    let day ← pair? d1 d2
    if 1 ≤ month ∧ month ≤ 12 ∧ 1 ≤ day ∧ day ≤ daysIn year month then some rest else none
  | _ => none

/-- A time of day, and what follows it. -/
def time? : List Char → Option (List Char)
  | h1 :: h2 :: ':' :: m1 :: m2 :: ':' :: s1 :: s2 :: rest => do
    let hour ← pair? h1 h2
    let minute ← pair? m1 m2
    let second ← pair? s1 s2
    if hour ≤ 23 ∧ minute ≤ 59 ∧ second ≤ 60 then
      match rest with
      | '.' :: c :: more => if c.isDigit then some (more.dropWhile Char.isDigit) else none
      | rest => some rest
    else none
  | _ => none

def upTo (most : Nat) : Option Nat → Bool
  | some n => n ≤ most
  | none => false

/-- The distance from universal time. -/
def isOffset : List Char → Bool
  | [] => true
  | ['Z'] => true
  | ['z'] => true
  | [sign, h1, h2, ':', m1, m2] =>
    (sign == '+' || sign == '-') && upTo 23 (pair? h1 h2) && upTo 59 (pair? m1 m2)
  | _ => false

def isDatetime (cs : List Char) : Bool :=
  match date? cs with
  | some [] => true
  | some (c :: rest) => (c == 'T' || c == 't' || c == ' ') && ((time? rest).map isOffset).getD false
  | none => time? cs == some []

def isTokenChar (c : Char) : Bool :=
  c.isAlphanum || c == '_' || c == '+' || c == '-' || c == '.' || c == ':'

/-- The characters of a number, a time or a word. A date and a time may have one space between. -/
def takeToken (cs : List Char) : List Char × List Char :=
  let token := cs.takeWhile isTokenChar
  let rest := cs.drop token.length
  match date? token, rest with
  | some [], ' ' :: c :: more =>
    if c.isDigit then
      let time := (c :: more).takeWhile isTokenChar
      (token ++ ' ' :: time, (c :: more).drop time.length)
    else (token, rest)
  | _, _ => (token, rest)

/-- The value of a token. -/
def scalar? (token : List Char) : Option Toml :=
  if token = "true".toList then some (.boolean true)
  else if token = "false".toList then some (.boolean false)
  else
    match integer? token with
    | some n => some (.integer n)
    | none =>
      match float? token with
      | some x => some (.float x)
      | none => if isDatetime token then some (.datetime (String.ofList token)) else none

/-! ## Keys -/

def isKeyChar (c : Char) : Bool := c.isAlphanum || c == '_' || c == '-'

def simpleKey? (cs : List Char) : Option (String × List Char) :=
  match cs with
  | '"' :: rest => basic? (rest.length + 1) [] rest
  | '\'' :: rest => literal? rest
  | cs =>
    let key := cs.takeWhile isKeyChar
    if key.isEmpty then none else some (String.ofList key, cs.drop key.length)

/-- A dotted key: the keys before the last one, the last one, and what follows. -/
def key? : Nat → List String → List Char → Option (List String × String × List Char)
  | 0, _, _ => none
  | fuel + 1, path, cs => do
    let (key, rest) ← simpleKey? (skipBlank cs)
    match skipBlank rest with
    | '.' :: rest => key? fuel (path ++ [key]) rest
    | rest => some (path, key, rest)

/-! ## Values -/

mutual

def value? : Nat → List Char → Option (Toml × List Char)
  | 0, _ => none
  | fuel + 1, cs =>
    match cs with
    | '"' :: _ => (string? cs).map (fun (s, rest) => (.string s, rest))
    | '\'' :: _ => (string? cs).map (fun (s, rest) => (.string s, rest))
    | '[' :: rest => items? fuel [] rest
    | '\x7b' :: rest =>
      match skipBlank rest with
      | '\x7d' :: rest => some (.table [], rest)
      | rest => members? fuel [] rest
    | cs => do
      let (token, rest) := takeToken cs
      some (← scalar? token, rest)

/-- The items of an array behind its bracket or a comma. -/
def items? : Nat → List Toml → List Char → Option (Toml × List Char)
  | 0, _, _ => none
  | fuel + 1, seen, cs =>
    match skipLines cs.length cs with
    | ']' :: rest => some (.array seen, rest)
    | cs => do
      let (item, rest) ← value? fuel cs
      match skipLines rest.length rest with
      | ',' :: rest => items? fuel (seen ++ [item]) rest
      | ']' :: rest => some (.array (seen ++ [item]), rest)
      | _ => none

/-- The members of an inline table behind its brace or a comma. -/
def members? : Nat → Entries → List Char → Option (Toml × List Char)
  | 0, _, _ => none
  | fuel + 1, seen, cs => do
    let (path, key, rest) ← key? (cs.length + 1) [] cs
    match rest with
    | '=' :: rest =>
      let (value, rest) ← value? fuel (skipBlank rest)
      let seen ← seen.define path key (.value value)
      match skipBlank rest with
      | ',' :: rest => members? fuel seen rest
      | '\x7d' :: rest => some (.table (entriesToToml seen), rest)
      | _ => none
    | _ => none

end

/-! ## Documents -/

/-- A document while it is read: its entries, and the table that keys go into. -/
structure Draft where
  entries : Entries
  current : List String

/-- A header in single brackets, behind its bracket. -/
def header? (draft : Draft) (cs : List Char) : Option (Draft × List Char) := do
  let (path, key, rest) ← key? (cs.length + 1) [] cs
  match rest with
  | ']' :: rest => some (⟨← draft.entries.openTable path key, path ++ [key]⟩, ← endOfLine? rest)
  | _ => none

/-- A header in double brackets, behind them. -/
def elementHeader? (draft : Draft) (cs : List Char) : Option (Draft × List Char) := do
  let (path, key, rest) ← key? (cs.length + 1) [] cs
  match rest with
  | ']' :: ']' :: rest => some (⟨← draft.entries.openElement path key, path ++ [key]⟩, ← endOfLine? rest)
  | _ => none

def definition? (draft : Draft) (cs : List Char) : Option (Draft × List Char) := do
  let (path, key, rest) ← key? (cs.length + 1) [] cs
  match rest with
  | '=' :: rest =>
    let rest := skipBlank rest
    let (value, rest) ← value? (rest.length + 1) rest
    some (⟨← draft.entries.defineUnder draft.current path key (.value value), draft.current⟩, ← endOfLine? rest)
  | _ => none

/-- The lines from here on. -/
def lines? : Nat → Draft → List Char → Option Draft
  | 0, _, _ => none
  | fuel + 1, draft, cs =>
    match skipBlank cs with
    | [] => some draft
    | '[' :: '[' :: rest => do
      let (draft, rest) ← elementHeader? draft rest
      lines? fuel draft rest
    | '[' :: rest => do
      let (draft, rest) ← header? draft rest
      lines? fuel draft rest
    | c :: rest =>
      if c == '#' || c == '\n' || c == '\r' then do lines? fuel draft (← endOfLine? (c :: rest))
      else do
        let (draft, rest) ← definition? draft (c :: rest)
        lines? fuel draft rest

def withoutMark : List Char → List Char
  | '\ufeff' :: rest => rest
  | cs => cs

/-- The top-level entries of a document, in key order. -/
def read? (text : String) : Option (Fields Toml) := do
  let cs := withoutMark text.toList
  let draft ← lines? (cs.length + 1) ⟨[], []⟩ cs
  some (entriesToToml draft.entries)

end OutOfBand.Toml
