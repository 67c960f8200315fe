import OutOfBand.Json.Basic

/-! # Equality of JSON values

Whether two values are one and the same can be decided. Values that count as the same need not be: of two zeros one
may have a sign.
-/
namespace OutOfBand.Json

mutual

/-- Equality of values, doubles compared by their codes. -/
def isExactly : Json → Json → Bool
  | .null, .null => true
  | .bool a, .bool b => a == b
  | .number a, .number b => decide (a = b)
  | .string a, .string b => a == b
  | .array as, .array bs => areExactly as bs
  | .object as, .object bs => membersAreExactly as bs
  | _, _ => false

def areExactly : List Json → List Json → Bool
  | [], [] => true
  | a :: as, b :: bs => isExactly a b && areExactly as bs
  | _, _ => false

def membersAreExactly : List (String × Json) → List (String × Json) → Bool
  | [], [] => true
  | (k, a) :: as, (l, b) :: bs => k == l && isExactly a b && membersAreExactly as bs
  | _, _ => false

end

mutual

theorem isExactly_iff (a b : Json) : isExactly a b = true ↔ a = b := by
  cases a with
  | null => cases b <;> simp [isExactly]
  | bool x => cases b <;> simp [isExactly]
  | number x => cases b <;> simp [isExactly]
  | string x => cases b <;> simp [isExactly]
  | array xs =>
    cases b with
    | array ys => simp [isExactly, areExactly_iff xs ys]
    | _ => simp [isExactly]
  | object xs =>
    cases b with
    | object ys => simp [isExactly, membersAreExactly_iff xs ys]
    | _ => simp [isExactly]

theorem areExactly_iff (xs ys : List Json) : areExactly xs ys = true ↔ xs = ys := by
  cases xs with
  | nil => cases ys <;> simp [areExactly]
  | cons x xs =>
    cases ys with
    | nil => simp [areExactly]
    | cons y ys => simp [areExactly, isExactly_iff x y, areExactly_iff xs ys]

theorem membersAreExactly_iff (xs ys : List (String × Json)) : membersAreExactly xs ys = true ↔ xs = ys := by
  cases xs with
  | nil => cases ys <;> simp [membersAreExactly]
  | cons x xs =>
    obtain ⟨k, v⟩ := x
    cases ys with
    | nil => simp [membersAreExactly]
    | cons y ys => simp [membersAreExactly, isExactly_iff v y.2, membersAreExactly_iff xs ys, Prod.ext_iff]

end

instance : DecidableEq Json := fun a b => decidable_of_iff _ (isExactly_iff a b)

end OutOfBand.Json
