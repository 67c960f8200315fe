import OutOfBand.Text.Marks

/-! # Direction of labels

In a name with letters that are written from right to left, every label has to run in one direction: it
begins with a letter, ends in a letter or a digit, and holds no letters of the other direction.
-/
namespace OutOfBand.Url

inductive Direction where
  /-- A letter written from left to right. -/
  | left
  /-- A letter written from right to left. -/
  | right
  | europeanDigit
  | arabicDigit
  /-- A mark takes the direction of the character before it. -/
  | mark
  | neutral
deriving DecidableEq, Repr

/-- Blocks of scripts that are written from right to left. -/
def rightLines : List String := ["590-8ff fb1d-fdff fe70-fefe 10800-10fff 1e800-1efff"]

def arabicDigitLines : List String := ["600-605 660-669 66b-66c 6dd 890-891 8e2 10d30-10d39 10e60-10e7e"]

/-- Signs and punctuation within those blocks. -/
def neutralLines : List String := ["606-607 609-60a 60c 60e-60f 66a 6de 6e9 7f6-7f9 fd3e-fd4f fdcf fdfd-fdff"]

def rights : List Text.Run := Text.Run.ofLines rightLines

def arabicDigits : List Text.Run := Text.Run.ofLines arabicDigitLines

def neutrals : List Text.Run := Text.Run.ofLines neutralLines

def Direction.of (c : Char) : Direction :=
  let n := c.toNat
  if Text.isAscii c then (if c.isAlpha then left else if c.isDigit then europeanDigit else neutral)
  else if Text.isMark c then mark
  else if 0x6F0 ≤ n && n ≤ 0x6F9 then europeanDigit
  else if (Text.runOf? arabicDigits c).isSome then arabicDigit
  else if (Text.runOf? neutrals c).isSome then neutral
  else if (Text.runOf? rights c).isSome then right
  else left

def isRightward (d : Direction) : Bool := d == .right || d == .arabicDigit

/-- The direction in which a label ends, marks aside. -/
def lastDirection? (ds : List Direction) : Option Direction := (ds.filter (· != .mark)).getLast?

/-- Whether a label runs in one direction. -/
def isOneWay (label : List Char) : Bool :=
  let ds := label.map Direction.of
  match ds with
  | [] => true
  | .left :: _ => !ds.any isRightward && (lastDirection? ds == some .left || lastDirection? ds == some .europeanDigit)
  | .right :: _ =>
    !ds.contains .left && !(ds.contains .europeanDigit && ds.contains .arabicDigit) &&
      ((lastDirection? ds).map (fun d => isRightward d || d == .europeanDigit)).getD false
  | _ => false

/-- Labels need to run in one direction only where some character is written from right to left. -/
def areOneWay (labels : List (List Char)) : Bool :=
  !labels.any (·.any (fun c => isRightward (Direction.of c))) || labels.all isOneWay

end OutOfBand.Url
