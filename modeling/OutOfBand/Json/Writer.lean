import OutOfBand.Json.Basic
import OutOfBand.Number.Format
import OutOfBand.Text.Quoted

/-! # Writing JSON

Compact text on one line, and text indented by two spaces. Only quotes, backslashes and the control
characters below space are escaped.
-/
namespace OutOfBand

def Numeral.render : Numeral → String
  | .int n => toString n
  | .float x => FloatFormat.json.render x

namespace Json

def escapeChar (c : Char) : List Char :=
  if c = '"' then ['\\', '"']
  else if c = '\\' then ['\\', '\\']
  else if c = '\n' then ['\\', 'n']
  else if c = '\r' then ['\\', 'r']
  else if c = '\t' then ['\\', 't']
  else if c = '\x08' then ['\\', 'b']
  else if c = '\x0c' then ['\\', 'f']
  else if c.toNat < 0x20 then
    ['\\', 'u', '0', '0', Text.hexDigit (c.toNat / 16), Text.hexDigit (c.toNat % 16)]
  else [c]

def renderString (s : String) : List Char := '"' :: (s.toList.flatMap escapeChar ++ ['"'])

mutual

def compactChars : Json → List Char
  | .null => ['n', 'u', 'l', 'l']
  | .bool true => ['t', 'r', 'u', 'e']
  | .bool false => ['f', 'a', 'l', 's', 'e']
  | .number n => n.render.toList
  | .string s => renderString s
  | .array items => '[' :: (compactItems true items ++ [']'])
  | .object members => '\x7b' :: (compactMembers true members ++ ['\x7d'])

/-- `first` tells that no comma is due yet. -/
def compactItems (first : Bool) : List Json → List Char
  | [] => []
  | item :: rest => (if first then [] else [',']) ++ (compactChars item ++ compactItems false rest)

def compactMembers (first : Bool) : List (String × Json) → List Char
  | [] => []
  | (key, value) :: rest =>
    (if first then [] else [',']) ++ renderString key ++ (':' :: compactChars value) ++
      compactMembers false rest

end

def compact (value : Json) : String := String.ofList value.compactChars

def newline (depth : Nat) : List Char := '\n' :: List.replicate (2 * depth) ' '

mutual

def prettyChars (depth : Nat) : Json → List Char
  | .array [] => ['[', ']']
  | .array (item :: rest) =>
    '[' :: (prettyItems (depth + 1) true (item :: rest) ++ newline depth ++ [']'])
  | .object [] => ['\x7b', '\x7d']
  | .object (entry :: rest) =>
    '\x7b' :: (prettyMembers (depth + 1) true (entry :: rest) ++ newline depth ++ ['\x7d'])
  | .null => ['n', 'u', 'l', 'l']
  | .bool true => ['t', 'r', 'u', 'e']
  | .bool false => ['f', 'a', 'l', 's', 'e']
  | .number n => n.render.toList
  | .string s => renderString s

def prettyItems (depth : Nat) (first : Bool) : List Json → List Char
  | [] => []
  | item :: rest =>
    (if first then [] else [',']) ++ newline depth ++ prettyChars depth item ++ prettyItems depth false rest

def prettyMembers (depth : Nat) (first : Bool) : List (String × Json) → List Char
  | [] => []
  | (key, value) :: rest =>
    (if first then [] else [',']) ++ newline depth ++ renderString key ++
      (':' :: ' ' :: prettyChars depth value) ++ prettyMembers depth false rest

end

end Json

end OutOfBand
