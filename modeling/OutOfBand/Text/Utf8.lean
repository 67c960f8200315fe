/-! # Reading UTF-8

Bytes read as UTF-8. Every longest run of bytes that begins a character and does not finish it is
replaced by one U+FFFD, so reading never fails.
-/
namespace OutOfBand.Text

/-- What has been read of a character: its bits so far, the continuation bytes still missing, and the
range of the next one. -/
inductive Utf8State where
  | start
  | within (bits missing low high : Nat)
deriving Repr, DecidableEq

def replacement : Char := Char.ofNat 0xFFFD

/-- The first byte of a character. -/
def Utf8State.first (b : Nat) : List Char × Utf8State :=
  if b < 0x80 then ([Char.ofNat b], .start)
  else if 0xC2 ≤ b ∧ b ≤ 0xDF then ([], .within (b - 0xC0) 1 0x80 0xBF)
  else if b = 0xE0 then ([], .within 0 2 0xA0 0xBF)
  else if b = 0xED then ([], .within 0xD 2 0x80 0x9F)
  else if 0xE1 ≤ b ∧ b ≤ 0xEF then ([], .within (b - 0xE0) 2 0x80 0xBF)
  else if b = 0xF0 then ([], .within 0 3 0x90 0xBF)
  else if 0xF1 ≤ b ∧ b ≤ 0xF3 then ([], .within (b - 0xF0) 3 0x80 0xBF)
  else if b = 0xF4 then ([], .within 4 3 0x80 0x8F)
  else ([replacement], .start)

/-- One more byte: the characters it completes and the state after it. -/
def Utf8State.step (b : Nat) : Utf8State → List Char × Utf8State
  | .start => first b
  | .within bits missing low high =>
    if low ≤ b ∧ b ≤ high then
      let bits := bits * 64 + b % 64
      if missing ≤ 1 then ([Char.ofNat bits], .start) else ([], .within bits (missing - 1) 0x80 0xBF)
    else
      let (chars, state) := first b
      (replacement :: chars, state)

def decodeFrom : Utf8State → List UInt8 → List Char
  | .start, [] => []
  | .within .., [] => [replacement]
  | state, b :: rest =>
    let (chars, next) := state.step b.toNat
    chars ++ decodeFrom next rest

/-- The text of the bytes. -/
def decodeUtf8 (bytes : List UInt8) : String := String.ofList (decodeFrom .start bytes)

def encodeUtf8 (s : String) : List UInt8 := s.toUTF8.toList

/-- Whether the bytes are the UTF-8 form of a text. -/
def isUtf8 (bytes : List UInt8) : Bool := encodeUtf8 (decodeUtf8 bytes) == bytes

end OutOfBand.Text
