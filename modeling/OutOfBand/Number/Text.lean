import OutOfBand.Number.Binary64
import OutOfBand.Text.Blank

/-! # Reading numbers

Whole numbers in some base, and doubles in decimal notation: digits with at most one point among or
around them, then an optional exponent; one sign may come first. What is too large for a double reads
as infinite.
-/
namespace OutOfBand

/-- The value of a digit, letters standing for ten and more. -/
def digitOf? (base : Nat) (c : Char) : Option Nat :=
  let lower := Text.asciiLower c
  let value? :=
    if c.isDigit then some (c.toNat - 0x30)
    else if 'a' ≤ lower ∧ lower ≤ 'z' then some (lower.toNat - 0x57)
    else none
  value?.filter (· < base)

def digitsFrom? (base : Nat) (n : Nat) : List Char → Option Nat
  | [] => some n
  | c :: rest => do digitsFrom? base (n * base + (← digitOf? base c)) rest

/-- A whole number without a sign; at least one digit. -/
def whole? (base : Nat) (cs : List Char) : Option Nat :=
  if cs.isEmpty then none else digitsFrom? base 0 cs

/-- An exponent's digits with an optional sign. -/
def exponent? : List Char → Option Int
  | '-' :: digits => (whole? 10 digits).map (fun n => -(n : Int))
  | '+' :: digits => (whole? 10 digits).map Int.ofNat
  | digits => (whole? 10 digits).map Int.ofNat

/-- A double in decimal notation. -/
def double? (cs : List Char) : Option Binary64 := do
  let (negative, cs) := match cs with
    | '-' :: rest => (true, rest)
    | '+' :: rest => (false, rest)
    | cs => (false, cs)
  let whole := cs.takeWhile Char.isDigit
  let rest := cs.dropWhile Char.isDigit
  let (fraction, rest) := match rest with
    | '.' :: rest => (rest.takeWhile Char.isDigit, rest.dropWhile Char.isDigit)
    | rest => ([], rest)
  let power ← match rest with
    | [] => some 0
    | 'e' :: digits => exponent? digits
    | 'E' :: digits => exponent? digits
    | _ => none
  let digits ← whole? 10 (whole ++ fraction)
  let magnitude := Binary64.ofDecimal digits (power - fraction.length)
  some { magnitude with negative := negative }

end OutOfBand
