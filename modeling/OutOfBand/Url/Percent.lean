import OutOfBand.Number.Text
import OutOfBand.Text.Utf8

/-! # Percent encoding

Each byte of the UTF-8 form outside a part's own characters is written as a percent sign and two
upper-case hexadecimal digits. Every part of a URL has its own set of characters that are escaped; no
set lets a control character or one beyond ASCII through.
-/
namespace OutOfBand.Url

def upperDigit (n : Nat) : Char := if n < 10 then Char.ofNat (0x30 + n) else Char.ofNat (0x37 + n)

def percentByte (b : UInt8) : List Char := ['%', upperDigit (b.toNat / 16), upperDigit (b.toNat % 16)]

def charBytes (c : Char) : List UInt8 := Text.encodeUtf8 (String.singleton c)

def percentChar (escaped : Char → Bool) (c : Char) : List Char :=
  if c.toNat < 0x20 || 0x7E < c.toNat || escaped c then (charBytes c).flatMap percentByte else [c]

def percentEncode (escaped : Char → Bool) (cs : List Char) : List Char := cs.flatMap (percentChar escaped)

def inFragment (c : Char) : Bool := [' ', '"', '<', '>', '\x60'].contains c

def inPath (c : Char) : Bool := inFragment c || ['#', '?', '\x7b', '\x7d'].contains c

def inUserInfo (c : Char) : Bool :=
  inPath c || ['/', ':', ';', '=', '@', '[', '\\', ']', '^', '|'].contains c

def inQuery (c : Char) : Bool := [' ', '"', '#', '<', '>'].contains c

/-- Queries of the web's own schemes escape the apostrophe as well. -/
def inSpecialQuery (c : Char) : Bool := inQuery c || c == '\''

/-- The bytes a text stands for; a percent sign without two digits stands for itself. -/
def percentDecode : List Char → List UInt8
  | [] => []
  | '%' :: a :: b :: rest =>
    match digitOf? 16 a, digitOf? 16 b with
    | some x, some y => UInt8.ofNat (x * 16 + y) :: percentDecode rest
    | _, _ => charBytes '%' ++ percentDecode (a :: b :: rest)
  | c :: rest => charBytes c ++ percentDecode rest

end OutOfBand.Url
