import OutOfBand.Fields
import OutOfBand.Number.Binary64

/-! # JSON values

Whole numbers from `-2 ^ 63` up to below `2 ^ 64` are kept apart from doubles: `5` and `5.0` are
different values. Objects are kept in key order.
-/
namespace OutOfBand

inductive Numeral where
  | int (n : Int)
  | float (x : Binary64)
deriving Repr, DecidableEq

inductive Json where
  | null
  | bool (b : Bool)
  | number (n : Numeral)
  | string (s : String)
  | array (items : List Json)
  | object (members : List (String × Json))
deriving Repr, Inhabited

abbrev Object := Fields Json

/-- Whole numbers are equal to whole numbers, doubles to doubles of the same value. -/
def Numeral.same : Numeral → Numeral → Bool
  | .int a, .int b => a == b
  | .float a, .float b => a.sameValue b
  | _, _ => false

namespace Json

mutual

/-- Equality of values, doubles compared by value. -/
def same : Json → Json → Bool
  | .null, .null => true
  | .bool a, .bool b => a == b
  | .number a, .number b => a.same b
  | .string a, .string b => a == b
  | .array as, .array bs => sameItems as bs
  | .object as, .object bs => sameMembers as bs
  | _, _ => false

def sameItems : List Json → List Json → Bool
  | [], [] => true
  | a :: as, b :: bs => same a b && sameItems as bs
  | _, _ => false

def sameMembers : List (String × Json) → List (String × Json) → Bool
  | [], [] => true
  | (k, a) :: as, (l, b) :: bs => k == l && same a b && sameMembers as bs
  | _, _ => false

end

instance : BEq Json := ⟨same⟩

def ofNat (n : Nat) : Json := .number (.int n)

/-- The member of an object; a value of another kind has none. -/
def member? : Json → String → Option Json
  | .object members, key => Fields.get? members key
  | _, _ => none

def text? : Json → Option String
  | .string s => some s
  | _ => none

def items? : Json → Option (List Json)
  | .array items => some items
  | _ => none

def members? : Json → Option Object
  | .object members => some members
  | _ => none

/-- A member that holds a text. -/
def textMember? (value : Json) (key : String) : Option String := value.member? key >>= text?

/-- A member that holds an array. -/
def itemsMember? (value : Json) (key : String) : Option (List Json) := value.member? key >>= items?

def isNull : Json → Bool
  | .null => true
  | _ => false

/-- The object of some entries, the last value of a repeated key kept. -/
def ofEntries (entries : List (String × Json)) : Json := .object (Fields.ofList entries)

def ofOption (f : α → Json) : Option α → Json
  | none => .null
  | some a => f a

end Json

end OutOfBand
