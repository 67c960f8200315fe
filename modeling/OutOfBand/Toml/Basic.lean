import OutOfBand.Fields
import OutOfBand.Number.Binary64

/-! # TOML documents

The values of a TOML document, and the tables while a document is read. A table remembers how it came
about, because a table that has been defined is not defined again.
-/
namespace OutOfBand

inductive Toml where
  | string (s : String)
  | integer (n : Int)
  /-- Codes above that of infinity stand for the undefined number. -/
  | float (x : Binary64)
  | boolean (b : Bool)
  | datetime (text : String)
  | array (items : List Toml)
  | table (entries : List (String × Toml))

namespace Toml

/-- An entry of a table that is still being read. -/
inductive Node where
  | value (v : Toml)
  /-- `implicit` until a header names it, `dotted` if dotted keys have made it. -/
  | table (implicit dotted : Bool) (entries : List (String × Node))
  /-- A table for each header in double brackets. -/
  | tables (elements : List (List (String × Node)))

abbrev Entries := List (String × Node)

mutual

def Node.toToml : Node → Toml
  | .value v => v
  | .table _ _ entries => .table (entriesToToml entries)
  | .tables elements => .array (elementsToToml elements)

def entriesToToml : List (String × Node) → List (String × Toml)
  | [] => []
  | (key, node) :: rest => Fields.insert key node.toToml (entriesToToml rest)

def elementsToToml : List (List (String × Node)) → List Toml
  | [] => []
  | entries :: rest => .table (entriesToToml entries) :: elementsToToml rest

end

namespace Entries

def replace (key : String) (node : Node) : Entries → Entries
  | [] => [(key, node)]
  | (k, n) :: rest => if k = key then (key, node) :: rest else (k, n) :: replace key node rest

/-- Act on the table that a path leads to, making the tables on the way that are missing. `act` is told
whether dotted keys have made the table. -/
def descend (dotted : Bool) (act : Bool → Entries → Option Entries) (isDotted : Bool) (entries : Entries) :
    List String → Option Entries
  | [] => act isDotted entries
  | key :: path =>
    match List.lookup key entries with
    | none => do
      let made ← descend dotted act dotted [] path
      some (replace key (.table true dotted made) entries)
    | some (.value _) => none
    | some (.table implicit isDotted inner) =>
      if dotted && !implicit then none
      else do
        let made ← descend dotted act isDotted inner path
        some (replace key (.table implicit isDotted made) entries)
    | some (.tables elements) =>
      match elements.reverse with
      | [] => none
      | last :: before => do
        let made ← descend dotted act false last path
        some (replace key (.tables (before.reverse ++ [made])) entries)

/-- Put a value under the last key of a dotted key. -/
def define (path : List String) (key : String) (node : Node) (entries : Entries) : Option Entries :=
  let act (isDotted : Bool) (entries : Entries) : Option Entries :=
    if isDotted == path.isEmpty || (List.lookup key entries).isSome then none
    else some (entries ++ [(key, node)])
  descend true act false entries path

/-- Begin the table that a header names. -/
def openTable (path : List String) (key : String) (entries : Entries) : Option Entries :=
  let act (_ : Bool) (entries : Entries) : Option Entries :=
    match List.lookup key entries with
    | none => some (entries ++ [(key, .table false false [])])
    | some (.table true false inner) => some (replace key (.table false false inner) entries)
    | some _ => none
  descend false act false entries path

/-- Begin one more table of those that a header in double brackets names. -/
def openElement (path : List String) (key : String) (entries : Entries) : Option Entries :=
  let act (_ : Bool) (entries : Entries) : Option Entries :=
    match List.lookup key entries with
    | none => some (entries ++ [(key, .tables [[]])])
    | some (.tables elements) => some (replace key (.tables (elements ++ [[]])) entries)
    | some _ => none
  descend false act false entries path

/-- Put a value into the table that was begun last. -/
def defineUnder (current path : List String) (key : String) (node : Node) (entries : Entries) : Option Entries :=
  descend false (fun _ inner => define path key node inner) false entries current

end Entries

end Toml

end OutOfBand
