/-! # Double precision numbers

The 64-bit floating-point numbers, each kept as a sign and the code of its magnitude: the biased
exponent times `2 ^ 52` plus the fraction. Codes are ordered as magnitudes are. Arithmetic is exact
arithmetic on natural numbers followed by one rounding, half to even.
-/
namespace OutOfBand

structure Binary64 where
  negative : Bool
  code : Nat
deriving DecidableEq, Repr

namespace Binary64

/-- The code of infinity; the finite magnitudes are the codes below it. -/
def infiniteCode : Nat := 2047 * Nat.pow 2 52

def isFinite (x : Binary64) : Bool := x.code < infiniteCode

def zero : Binary64 := ⟨false, 0⟩

/-- The magnitude is `significand * 2 ^ (shift - 1074)`. -/
def significand (x : Binary64) : Nat :=
  if x.code / Nat.pow 2 52 = 0 then x.code else x.code % Nat.pow 2 52 + Nat.pow 2 52

def shift (x : Binary64) : Nat := x.code / Nat.pow 2 52 - 1

/-- The magnitude as a fraction. -/
def ratio (x : Binary64) : Nat × Nat :=
  if 1074 ≤ x.shift then (x.significand * Nat.pow 2 (x.shift - 1074), 1)
  else (x.significand, Nat.pow 2 (1074 - x.shift))

/-- The integer nearest to `num / den`, a half going to the even neighbour. -/
def roundHalfEven (num den : Nat) : Nat :=
  let q := num / den
  let r := num % den
  if 2 * r < den then q else if den < 2 * r then q + 1 else if q % 2 = 0 then q else q + 1

/-- The shift at which `num / den` has 53 bits, or the least shift when it has fewer. -/
def shiftOfRatio (num den : Nat) : Nat :=
  let estimate : Nat := (num.log2 + 1074) - den.log2
  let fits (s : Nat) : Bool := num * Nat.pow 2 1074 < den * Nat.pow 2 (s + 53)
  if estimate < 54 then (if fits 0 then 0 else if fits 1 then 1 else 2)
  else if fits (estimate - 54) then estimate - 54
  else if fits (estimate - 53) then estimate - 53
  else estimate - 52

/-- The code of the double nearest to `num / den`; what is too large is infinite. -/
def codeOfRatio (num den : Nat) : Nat :=
  if num = 0 then 0 else
    let s := shiftOfRatio num den
    let code := s * Nat.pow 2 52 + roundHalfEven (num * Nat.pow 2 1074) (den * Nat.pow 2 s)
    if infiniteCode ≤ code then infiniteCode else code

def ofRatio (num den : Nat) : Binary64 := ⟨false, codeOfRatio num den⟩

def ofNat (n : Nat) : Binary64 := ofRatio n 1

def neg (x : Binary64) : Binary64 := { x with negative := !x.negative }

def mul (x y : Binary64) : Binary64 :=
  let sign := x.negative != y.negative
  if x.isFinite && y.isFinite then
    ⟨sign, codeOfRatio (x.ratio.1 * y.ratio.1) (x.ratio.2 * y.ratio.2)⟩
  else ⟨sign, infiniteCode⟩

def div (x y : Binary64) : Binary64 :=
  let sign := x.negative != y.negative
  if x.isFinite && y.isFinite then
    ⟨sign, codeOfRatio (x.ratio.1 * y.ratio.2) (x.ratio.2 * y.ratio.1)⟩
  else ⟨sign, infiniteCode⟩

/-- Equality of values: the two zeros are equal. -/
def sameValue (x y : Binary64) : Bool := x.code == y.code && (x.negative == y.negative || x.code == 0)

/-- Digits and a power of ten, read to the nearest double. The bounds on the power keep the numbers
small; beyond them every nonzero value rounds to zero or to infinity. -/
def ofDecimal (digits : Nat) (power : Int) : Binary64 :=
  if digits = 0 then zero
  else
    let magnitude : Int := digits.log2 / 3 + 1 + power
    if magnitude < -400 then zero
    else if 800 < power then ⟨false, infiniteCode⟩
    else match power with
      | .ofNat p => ofRatio (digits * Nat.pow 10 p) 1
      | .negSucc p => ofRatio digits (Nat.pow 10 (p + 1))

end Binary64

end OutOfBand
