import OutOfBand.Environment
import OutOfBand.Number.Text
import OutOfBand.Settings.Value
import OutOfBand.Text.Blank

/-! # Settings in the environment

Variables whose names begin with `OPENMANAGE_`, in any case, are settings. A double underscore leads
into a table. Values are read as truth values, numbers, texts in quotes, lists and tables; what is none
of these is a text as it stands.
-/
namespace OutOfBand.Settings

/-- A value and the text behind it. -/
abbrev Reading := Option (Setting × List Char)

def skipBlank (cs : List Char) : List Char := cs.dropWhile Text.isAsciiBlank

def isSeparator (c : Char) : Bool := [',', '\x7b', '\x7d', '[', ']'].contains c

def isKeyChar (c : Char) : Bool := c.isAlphanum || c == '_' || c == '-'

def leaf (value : Leaf) : Setting := .leaf .environment value

/-- A whole number without a sign, or with a plus, that fits 64 bits. -/
def unsigned? (cs : List Char) : Option Nat :=
  let digits := match cs with
    | '+' :: rest => rest
    | cs => cs
  (whole? 10 digits).filter (· < Nat.pow 2 64)

def negative? : List Char → Option Int
  | '-' :: digits => ((whole? 10 digits).filter (· ≤ Nat.pow 2 63)).map (fun n => -(n : Int))
  | _ => none

/-- A word without quotes. -/
def word (cs : List Char) : Setting :=
  let cs := Text.trimChars cs
  match (if cs.contains '.' then double? cs else none), unsigned? cs, negative? cs with
  | some x, _, _ => leaf (.real x)
  | none, some n, _ => leaf (.unsigned n)
  | none, none, some n => leaf (.signed n)
  | none, none, none => leaf (.text (String.ofList cs))

/-- The text up to the closing quote; a backslash keeps the next character. -/
def quotedText (escaped : Bool) : List Char → Option (List Char × List Char)
  | [] => none
  | c :: rest =>
    if c = '"' ∧ !escaped then some ([], rest)
    else (quotedText (c = '\\' && !escaped) rest).map (fun (text, rest) => (c :: text, rest))

def key? (cs : List Char) : Option (String × List Char) :=
  match cs with
  | '"' :: rest => (quotedText false rest).map (fun (text, rest) => (String.ofList text, rest))
  | cs =>
    let key := cs.takeWhile isKeyChar
    if key.isEmpty then none else some (String.ofList key, cs.drop key.length)

def afterWord? (word : String) (cs : List Char) : Option (List Char) :=
  if word.toList.isPrefixOf cs then some (cs.drop word.length) else none

mutual

/-- A value with blanks around it. -/
def value? : Nat → List Char → Reading
  | 0, _ => none
  | fuel + 1, cs => do
    let cs := skipBlank cs
    let (value, rest) ← match afterWord? "true" cs, afterWord? "false" cs, cs with
      | some rest, _, _ => some (leaf (.truth true), rest)
      | none, some rest, _ => some (leaf (.truth false), rest)
      | none, none, '\x7b' :: rest => members? fuel [] rest
      | none, none, '[' :: rest => items? fuel [] rest
      | none, none, '"' :: rest => (quotedText false rest).map (fun (text, rest) => (leaf (.text (String.ofList text)), rest))
      | none, none, '\'' :: c :: '\'' :: rest => some (leaf (.character c), rest)
      | none, none, '\'' :: _ => none
      | none, none, cs =>
        let text := cs.takeWhile (!isSeparator ·)
        some (word text, cs.drop text.length)
    some (value, skipBlank rest)

def items? : Nat → List Setting → List Char → Reading
  | 0, _, _ => none
  | fuel + 1, seen, cs =>
    match cs with
    | ']' :: rest => some (.sequence .environment seen, rest)
    | cs => do
      let (item, rest) ← value? fuel cs
      match rest with
      | ',' :: rest => items? fuel (seen ++ [item]) rest
      | ']' :: rest => some (.sequence .environment (seen ++ [item]), rest)
      | _ => none

def members? : Nat → Fields Setting → List Char → Reading
  | 0, _, _ => none
  | fuel + 1, seen, cs =>
    match cs with
    | '\x7d' :: rest => some (.table .environment seen, rest)
    | cs => do
      let (key, rest) ← key? (skipBlank cs)
      match skipBlank rest with
      | '=' :: rest =>
        let (value, rest) ← value? fuel rest
        let seen := seen.insert key value
        match rest with
        | ',' :: rest => members? fuel seen rest
        | '\x7d' :: rest => some (.table .environment seen, rest)
        | _ => none
      | _ => none

end

/-- The setting that a variable's value stands for. -/
def ofVariable (value : String) : Setting :=
  let cs := Text.trimChars value.toList
  match value? (cs.length + 2) cs with
  | some (setting, []) => setting
  | _ => leaf (.text (String.ofList cs))

def mark : String := "openmanage_"

/-- Double underscores as dots, from the left. -/
def dotted : List Char → List Char
  | '_' :: '_' :: rest => '.' :: dotted rest
  | c :: rest => c :: dotted rest
  | [] => []

/-- The path of keys that a variable's name stands for, if it is one of a setting. -/
def pathOf? (name : String) : Option (List String) :=
  let lower := (Text.lowerAscii name).toList
  if mark.toList.isPrefixOf lower then
    let parts := Text.splitOn (· == '.') (dotted (lower.drop mark.length))
    if parts.any List.isEmpty then none else some (parts.map String.ofList)
  else none

/-- A setting under a path of keys. -/
def nest (value : Setting) : List String → Setting
  | [] => value
  | key :: path => .table .environment [(key, nest value path)]

/-- The settings of an environment, later names over earlier ones. -/
def ofEnvironment (env : Environment) : Setting :=
  List.foldl (fun merged (name, value) =>
    match pathOf? name with
    | some path => merged.merge (nest (ofVariable value) path)
    | none => merged) (.table .environment []) env

end OutOfBand.Settings
