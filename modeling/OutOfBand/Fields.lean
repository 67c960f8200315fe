/-! # Fields

A finite map from texts to values, kept as a list in strictly increasing key order. Objects, query
maps and layered settings are all of this shape, so their order is the order of their keys.
-/
namespace OutOfBand

abbrev Fields (α : Type) := List (String × α)

namespace Fields

variable {α : Type}

def get? (fields : Fields α) (key : String) : Option α := List.lookup key fields

def contains (fields : Fields α) (key : String) : Bool := (fields.get? key).isSome

def keys (fields : Fields α) : List String := List.map Prod.fst fields

/-- Put `value` under `key`, in place of an earlier value of that key. -/
def insert (key : String) (value : α) : Fields α → Fields α
  | [] => [(key, value)]
  | (k, v) :: rest =>
    if key < k then (key, value) :: (k, v) :: rest
    else if key = k then (key, value) :: rest
    else (k, v) :: insert key value rest

/-- The last value given for a key is the one that stays. -/
def ofList (entries : List (String × α)) : Fields α :=
  entries.foldl (fun fields entry => insert entry.1 entry.2 fields) []

/-- Keys strictly increase, so no key occurs twice. -/
def Sorted : Fields α → Prop
  | [] => True
  | (k, _) :: rest => (∀ entry ∈ rest, k < entry.1) ∧ Sorted rest

end Fields

end OutOfBand
