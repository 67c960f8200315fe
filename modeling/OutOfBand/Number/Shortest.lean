import OutOfBand.Number.Binary64

/-! # Shortest decimals

The fewest decimal digits that read back as the same double, and of those the nearest to it. For each
number of digits the two neighbours of the value on that decimal grid are tried; the first grid with
a hit wins.
-/
namespace OutOfBand

/-- `digits * 10 ^ power`. -/
structure Decimal where
  digits : Nat
  power : Int
deriving DecidableEq, Repr

namespace Decimal

/-- Zeros at the end go into the power. -/
def normalize : Nat → Nat → Int → Decimal
  | 0, digits, power => ⟨digits, power⟩
  | fuel + 1, digits, power =>
    if digits ≠ 0 ∧ digits % 10 = 0 then normalize fuel (digits / 10) (power + 1) else ⟨digits, power⟩

def digitChars (d : Decimal) : List Char := Nat.toDigits 10 d.digits

end Decimal

namespace Binary64

/-- The reals that round to a magnitude: between the two ends, which are fractions over one
denominator, ends included when the code is even. -/
structure Interval where
  low : Nat
  value : Nat
  high : Nat
  den : Nat
  closed : Bool

def interval (x : Binary64) : Interval :=
  let (num, den) := x.ratio
  let unit := if 1074 ≤ x.shift then Nat.pow 2 (x.shift - 1074) else 1
  let narrow := x.significand == Nat.pow 2 52 && 0 < x.shift
  ⟨4 * num - (if narrow then unit else 2 * unit), 4 * num, 4 * num + 2 * unit, 4 * den, x.code % 2 == 0⟩

def Interval.holds (i : Interval) (num den : Nat) : Bool :=
  let a := num * i.den
  if i.closed then i.low * den ≤ a && a ≤ i.high * den else i.low * den < a && a < i.high * den

/-- The greatest `k` with `10 ^ k ≤ num / den`, counted down from a bound. -/
def decimalExponent (num den : Nat) : Nat → Int → Int
  | 0, k => k
  | fuel + 1, k =>
    let below : Bool := match k with
      | .ofNat p => den * Nat.pow 10 p ≤ num
      | .negSucc p => den ≤ num * Nat.pow 10 (p + 1)
    if below then k else decimalExponent num den fuel (k - 1)

/-- A start for the count: at most two above the exponent sought. -/
def exponentBound (num den : Nat) : Int :=
  let bits : Int := (num.log2 : Int) - den.log2
  Int.fdiv ((bits + 1) * 30103) 100000 + 1

/-- The two neighbours of the value on the grid of `10 ^ power`, with that power as a fraction. -/
def neighbours (i : Interval) (power : Int) : Nat × Nat × Nat :=
  match power with
  | .ofNat p => (i.value / (i.den * Nat.pow 10 p), Nat.pow 10 p, 1)
  | .negSucc p => (i.value * Nat.pow 10 (p + 1) / i.den, 1, Nat.pow 10 (p + 1))

def onGrid? (i : Interval) (power : Int) : Option Decimal :=
  let (d, up, down) := neighbours i power
  let lower := i.holds (d * up) down && d != 0
  let upper := i.holds ((d + 1) * up) down
  -- distances to the value, over the common denominator
  let below := i.value * down - d * up * i.den
  let above := (d + 1) * up * i.den - i.value * down
  if lower && (!upper || below < above || (below == above && d % 2 == 0)) then some ⟨d, power⟩
  else if upper then some ⟨d + 1, power⟩
  else none

def shortestFrom (i : Interval) (exponent : Int) : Nat → Nat → Decimal
  | 0, _ => ⟨0, 0⟩
  | fuel + 1, count =>
    match onGrid? i (exponent + 1 - count) with
    | some d => Decimal.normalize 20 d.digits d.power
    | none => shortestFrom i exponent fuel (count + 1)

/-- The shortest decimal of a finite magnitude. -/
def shortest (x : Binary64) : Decimal :=
  if x.code = 0 then ⟨0, 0⟩
  else
    let i := x.interval
    let exponent := decimalExponent i.value i.den 4 (exponentBound i.value i.den)
    shortestFrom i exponent 18 1

end Binary64

end OutOfBand
