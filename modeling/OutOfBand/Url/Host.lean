import OutOfBand.Url.Domain
import OutOfBand.Url.Percent

/-! # Hosts

The host of a URL: a domain name, an address of version 4 or 6, or the opaque host of a scheme that
the web does not know. Numbers in dotted form are addresses, in any of their short, octal and
hexadecimal spellings.
-/
namespace OutOfBand.Url

/-- Why a text is no URL. -/
inductive Fault where
  | emptyHost
  | domainName
  | portNumber
  | ipv4Address
  | ipv6Address
  | hostCharacter
  | noBase
  | opaqueBase
deriving DecidableEq, Repr

def Fault.message : Fault → String
  | .emptyHost => "empty host"
  | .domainName => "invalid international domain name"
  | .portNumber => "invalid port number"
  | .ipv4Address => "invalid IPv4 address"
  | .ipv6Address => "invalid IPv6 address"
  | .hostCharacter => "invalid domain character"
  | .noBase => "relative URL without a base"
  | .opaqueBase => "relative URL with a cannot-be-a-base base"

inductive Host where
  | domain (name : List Char)
  | ipv4 (address : Nat)
  /-- Eight pieces of 16 bits. -/
  | ipv6 (pieces : List Nat)
  | plain (text : List Char)
deriving DecidableEq, Repr

/-! ## Addresses of version 6 -/

def hexPiece? (cs : List Char) : Option Nat := if cs.length ≤ 4 then whole? 16 cs else none

/-- A decimal number up to 255 without zeros in front. -/
def byte? (cs : List Char) : Option Nat :=
  if cs.length ≤ 3 ∧ (cs.head? ≠ some '0' ∨ cs.length = 1) then (whole? 10 cs).filter (· < 256) else none

/-- Four bytes with dots between as two pieces. -/
def dottedPieces? (cs : List Char) : Option (List Nat) :=
  match Text.splitOn (· == '.') cs with
  | [a, b, c, d] => do some [(← byte? a) * 256 + (← byte? b), (← byte? c) * 256 + (← byte? d)]
  | _ => none

/-- Pieces between colons, the last of which may be in dotted form. -/
def piecesOf? (dotted : Bool) : List (List Char) → Option (List Nat)
  | [] => some []
  | [last] =>
    if dotted && last.contains '.' then dottedPieces? last else (hexPiece? last).map (fun n => [n])
  | piece :: rest => do some ((← hexPiece? piece) :: (← piecesOf? dotted rest))

def pieces? (dotted : Bool) (cs : List Char) : Option (List Nat) :=
  if cs.isEmpty then some [] else piecesOf? dotted (Text.splitOn (· == ':') cs)

/-- Split at the first double colon. -/
def splitGap? : List Char → Option (List Char × List Char)
  | ':' :: ':' :: rest => some ([], rest)
  | c :: rest => (splitGap? rest).map (fun parts => (c :: parts.1, parts.2))
  | [] => none

/-- An address of version 6 without brackets. A double colon stands for one or more zero pieces. -/
def ipv6? (cs : List Char) : Option (List Nat) :=
  match splitGap? cs with
  | some (head, tail) => do
    let head ← pieces? false head
    let tail ← pieces? true tail
    if head.length + tail.length ≤ 7 then some (head ++ List.replicate (8 - head.length - tail.length) 0 ++ tail)
    else none
  | none => (pieces? true cs).filter (fun pieces => pieces.length == 8)

/-- The length of the run of zeros at the start. -/
def zeroRun (pieces : List Nat) : Nat := (pieces.takeWhile (· == 0)).length

/-- Start and length of the first longest run of zeros. -/
def longestRun (start : Nat) : List Nat → Nat × Nat
  | [] => (start, 0)
  | piece :: rest =>
    let here := zeroRun (piece :: rest)
    let later := longestRun (start + 1) rest
    if later.2 ≤ here then (start, here) else later

def hexPieces (pieces : List Nat) : List Char := joinWith ':' (pieces.map Text.hexDigits)

/-- The address in its shortest form: the first longest run of at least two zeros is left out. -/
def ipv6Chars (pieces : List Nat) : List Char :=
  let (start, length) := longestRun 0 pieces
  if length < 2 then hexPieces pieces
  else hexPieces (pieces.take start) ++ ':' :: ':' :: hexPieces (pieces.drop (start + length))

/-! ## Addresses of version 4 -/

/-- A number in decimal, octal behind a zero, or hexadecimal behind `0x`. -/
def ipv4Number? : List Char → Option Nat
  | [] => none
  | ['0', 'x'] => some 0
  | ['0', 'X'] => some 0
  | '0' :: 'x' :: digits => whole? 16 digits
  | '0' :: 'X' :: digits => whole? 16 digits
  | '0' :: d :: digits => whole? 8 (d :: digits)
  | digits => whole? 10 digits

/-- The parts between dots, one empty part at the end not counted. -/
def dottedParts (name : List Char) : List (List Char) :=
  let parts := Text.splitOn (· == '.') name
  if parts.getLast? = some [] then parts.dropLast else parts

/-- Whether a name is to be read as an address: its last part is a number. -/
def endsInNumber (name : List Char) : Bool :=
  match (dottedParts name).getLast? with
  | some last => (!last.isEmpty && last.all Char.isDigit) || (ipv4Number? last).isSome
  | none => false

/-- One byte for each part but the last, which fills the rest of the address. -/
def addressOf? (numbers : List Nat) : Option Nat :=
  match numbers.reverse with
  | [] => none
  | last :: before =>
    let leading := before.reverse
    if leading.length ≤ 3 ∧ leading.all (· < 256) ∧ last < Nat.pow 256 (4 - leading.length) then
      some (leading.foldl (fun sum n => sum * 256 + n) 0 * Nat.pow 256 (4 - leading.length) + last)
    else none

def ipv4? (name : List Char) : Option Nat := do addressOf? (← (dottedParts name).mapM ipv4Number?)

def ipv4Chars (address : Nat) : List Char :=
  joinWith '.' ([address / 16777216 % 256, address / 65536 % 256, address / 256 % 256, address % 256].map (Nat.toDigits 10))

/-! ## Any host -/

namespace Host

/-- The address between brackets. -/
def bracketed (cs : List Char) : Except Fault Host :=
  match cs.reverse with
  | ']' :: inner =>
    match ipv6? inner.reverse with
    | some pieces => .ok (.ipv6 pieces)
    | none => .error .ipv6Address
  | _ => .error .ipv6Address

/-- The host of a web scheme. -/
def ofChars : List Char → Except Fault Host
  | '[' :: rest => bracketed rest
  | cs =>
    let bytes := percentDecode cs
    if !Text.isUtf8 bytes then .error .domainName
    else match asciiDomain? (Text.decodeUtf8 bytes).toList with
      | none => .error .domainName
      | some [] => .error .emptyHost
      | some name =>
        if endsInNumber name then
          match ipv4? name with
          | some address => .ok (.ipv4 address)
          | none => .error .ipv4Address
        else .ok (.domain name)

def isForbiddenInOpaque (c : Char) : Bool :=
  ['\x00', '\t', '\n', '\r', ' ', '#', '/', ':', '<', '>', '?', '@', '[', '\\', ']', '^', '|'].contains c

/-- The host of any other scheme. -/
def opaqueOfChars : List Char → Except Fault Host
  | '[' :: rest => bracketed rest
  | cs => if cs.any isForbiddenInOpaque then .error .hostCharacter else .ok (.plain (percentEncode (fun _ => false) cs))

def chars : Host → List Char
  | .domain name => name
  | .ipv4 address => ipv4Chars address
  | .ipv6 pieces => '[' :: (ipv6Chars pieces ++ [']'])
  | .plain text => text

end Host

end OutOfBand.Url
