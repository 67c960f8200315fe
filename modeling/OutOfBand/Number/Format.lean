import OutOfBand.Number.Shortest

/-! # Writing doubles

The ways in which the program writes a double. All of them use the shortest decimal; they differ in
where positional notation ends and in how whole numbers and exponents look.
-/
namespace OutOfBand

/-- With `first` the power of ten of the first digit, numbers from `10 ^ least` up to below
`10 ^ (most + 1)` are positional. -/
structure FloatFormat where
  least : Int
  most : Int
  /-- Whether a positive exponent has a sign. -/
  plus : Bool
  /-- Whether a whole number in positional notation ends in `.0`. -/
  point : Bool

namespace FloatFormat

/-- JSON text, and messages about JSON values. -/
def json : FloatFormat := ⟨-5, 15, true, true⟩

def yaml : FloatFormat := ⟨-5, 15, false, true⟩

/-- Messages about settings: never an exponent, and whole numbers without a point. -/
def plain : FloatFormat := ⟨-400, 400, false, false⟩

def zeros (n : Nat) : List Char := List.replicate n '0'

/-- Positional notation of digits whose first stands at `10 ^ first`. -/
def positional (format : FloatFormat) (digits : List Char) (first : Int) : List Char :=
  match first with
  | .ofNat f =>
    if digits.length ≤ f + 1 then
      digits ++ zeros (f + 1 - digits.length) ++ (if format.point then ['.', '0'] else [])
    else digits.take (f + 1) ++ '.' :: digits.drop (f + 1)
  | .negSucc f => '0' :: '.' :: (zeros f ++ digits)

def scientific (format : FloatFormat) (digits : List Char) (first : Int) : List Char :=
  let mantissa := match digits with
    | d :: (next :: rest) => d :: '.' :: next :: rest
    | digits => digits
  let exponent := match first with
    | .ofNat f => (if format.plus then ['+'] else []) ++ Nat.toDigits 10 f
    | .negSucc f => '-' :: Nat.toDigits 10 (f + 1)
  mantissa ++ 'e' :: exponent

/-- The text of a finite double. -/
def render (format : FloatFormat) (x : Binary64) : String :=
  let decimal := x.shortest
  let digits := decimal.digitChars
  let first : Int := decimal.power + (digits.length - 1 : Nat)
  let body :=
    if format.least ≤ first ∧ first ≤ format.most then format.positional digits first
    else format.scientific digits first
  String.ofList (if x.negative then '-' :: body else body)

end FloatFormat

end OutOfBand
