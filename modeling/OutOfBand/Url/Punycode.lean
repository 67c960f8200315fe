import OutOfBand.Text.Blank

/-! # Punycode

The coding of an internationalised host label in ASCII: first the ASCII characters, then, in order of
their code points, the distances at which the other characters are put in, as numbers of base 36 with
digits of varying weight.
-/
namespace OutOfBand.Url.Punycode

def threshold (position bias : Nat) : Nat :=
  if position ≤ bias then 1 else if bias + 26 ≤ position then 26 else position - bias

theorem one_le_threshold (position bias : Nat) : 1 ≤ threshold position bias := by
  unfold threshold
  split
  · exact Nat.le_refl 1
  · split <;> omega

/-- Divide by 35 until the number is small; each division counts 36. -/
def settle (delta count : Nat) : Nat :=
  if 455 < delta then settle (delta / 35) (count + 36) else count + 36 * delta / (delta + 38)
termination_by delta
decreasing_by exact Nat.div_lt_self (by omega) (by decide)

/-- The bias after a distance: how its digits fell, for the next one. -/
def adapt (delta points : Nat) (first : Bool) : Nat :=
  let halved := if first then delta / 700 else delta / 2
  settle (halved + halved / points) 0

def digitChar (d : Nat) : Char := if d < 26 then Char.ofNat (0x61 + d) else Char.ofNat (0x30 + (d - 26))

def digitOf? (c : Char) : Option Nat :=
  let lower := Text.asciiLower c
  if 'a' ≤ lower ∧ lower ≤ 'z' then some (lower.toNat - 0x61)
  else if c.isDigit then some (c.toNat - 0x30 + 26)
  else none

/-- The digits of a distance. -/
def encodeDistance (bias position distance : Nat) : List Char :=
  let t := threshold position bias
  if distance < t then [digitChar distance]
  else digitChar (t + (distance - t) % (36 - t)) :: encodeDistance bias (position + 36) ((distance - t) / (36 - t))
termination_by distance
decreasing_by
  have low := one_le_threshold position bias
  have quotient := Nat.div_le_self (distance - threshold position bias) (36 - threshold position bias)
  omega

structure Encoder where
  written : List Char
  distance : Nat
  bias : Nat
  /-- The characters written so far. -/
  count : Nat

/-- Pass one character of the label while the code point `n` is put in. -/
def Encoder.pass (ascii n : Nat) (e : Encoder) (c : Char) : Encoder :=
  if c.toNat < n then { e with distance := e.distance + 1 }
  else if c.toNat = n then
    ⟨e.written ++ encodeDistance e.bias 36 e.distance, 0, adapt e.distance (e.count + 1) (e.count == ascii),
      e.count + 1⟩
  else e

/-- Put in the code points in increasing order; `next` is the least one still possible. -/
def Encoder.run (label : List Char) (ascii next : Nat) (e : Encoder) : List Nat → Encoder
  | [] => e
  | n :: points =>
    let e := { e with distance := e.distance + (n - next) * (e.count + 1) }
    let e := label.foldl (Encoder.pass ascii n) e
    { e with distance := e.distance + 1 }.run label ascii (n + 1) points

def insertPoint (n : Nat) : List Nat → List Nat
  | [] => [n]
  | m :: rest => if n < m then n :: m :: rest else if n = m then m :: rest else m :: insertPoint n rest

/-- The coded label, without a mark in front. -/
def encode (label : List Char) : List Char :=
  let ascii := label.filter Text.isAscii
  let points := (label.filter (!Text.isAscii ·)).foldl (fun points c => insertPoint c.toNat points) []
  let start := if ascii.isEmpty then [] else ascii ++ ['-']
  (Encoder.run label ascii.length 128 ⟨start, 0, 72, ascii.length⟩ points).written

structure Decoder where
  label : List Char
  point : Nat
  /-- Where the next character may be put in at the earliest. -/
  place : Nat
  bias : Nat

/-- Put `c` at a place of the list. -/
def insertAt (place : Nat) (c : Char) (cs : List Char) : List Char := cs.take place ++ c :: cs.drop place

/-- A distance has been read: put its character in. -/
def Decoder.put (d : Decoder) (distance : Nat) : Option Decoder :=
  let size := d.label.length + 1
  let point := d.point + (d.place + distance) / size
  let place := (d.place + distance) % size
  if point < 0xD800 ∨ (0xDFFF < point ∧ point < 0x110000) then
    some ⟨insertAt place (Char.ofNat point) d.label, point, place + 1, adapt distance size (d.place == 0)⟩
  else none

/-- Read distances; `position`, `weight` and `distance` belong to the one being read. -/
def Decoder.run (d : Decoder) (position weight distance : Nat) : List Char → Option Decoder
  | [] => if weight = 1 ∧ position = 36 then some d else none
  | c :: rest => do
    let digit ← digitOf? c
    let distance := distance + digit * weight
    let t := threshold position d.bias
    if digit < t then
      let d ← d.put distance
      d.run 36 1 0 rest
    else d.run (position + 36) (weight * (36 - t)) distance rest

/-- The label of a coded text; none if the text is no code. -/
def decode (code : List Char) : Option (List Char) :=
  let tail := (code.reverse.takeWhile (· != '-')).reverse
  let ascii := code.take (code.length - tail.length - 1)
  if ascii.all Text.isAscii then
    (Decoder.run ⟨ascii, 128, 0, 72⟩ 36 1 0 tail).map Decoder.label
  else none

end OutOfBand.Url.Punycode
