import OutOfBand.Number.Text

/-! # Runs of code points

Tables of characters are written as words between blanks. A word names a run of code points in
hexadecimal and then, if need be, what the run stands for: after an equals sign the same values for
the whole run, after an angle values that grow along with it.
-/
namespace OutOfBand.Text

structure Run where
  first : Nat
  last : Nat
  isGrowing : Bool
  values : List Nat

namespace Run

def holds (run : Run) (n : Nat) : Bool := run.first ≤ n && n ≤ run.last

/-- What a code point of the run stands for. -/
def valuesAt (run : Run) (n : Nat) : List Nat :=
  if run.isGrowing then run.values.map (· + (n - run.first)) else run.values

def hexadecimal (cs : List Char) : Nat := (whole? 16 cs).getD 0

def isMeaning (c : Char) : Bool := c == '=' || c == '>'

/-- The run that a word names. -/
def ofChars (word : List Char) : Run :=
  let span := (splitOn (· == '-') (word.takeWhile (!isMeaning ·))).map hexadecimal
  let meaning := word.dropWhile (!isMeaning ·)
  let values := if meaning.isEmpty then [] else (splitOn (· == '.') meaning.tail).map hexadecimal
  ⟨span.head?.getD 0, span.getLast?.getD 0, meaning.head? == some '>', values⟩

/-- The runs of a table. -/
def ofLines (lines : List String) : List Run :=
  lines.flatMap (fun line => (splitOn (· == ' ') line.toList).map ofChars)

end Run

/-- The run that holds a character. -/
def runOf? (runs : List Run) (c : Char) : Option Run := runs.find? (·.holds c.toNat)

end OutOfBand.Text
