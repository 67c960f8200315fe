import OutOfBand.Fields
import OutOfBand.Text.Blank
import OutOfBand.Text.Utf8

/-! # File trees

The files that a program can read: bytes by absolute path. The directories are those above some file
and those named as such.
-/
namespace OutOfBand

inductive FileFault where
  | notFound
  | isDirectory
  | notDirectory
  | invalidName
  /-- The bytes are no text. -/
  | invalidText
deriving DecidableEq, Repr

def FileFault.message : FileFault → String
  | .notFound => "No such file or directory (os error 2)"
  | .isDirectory => "Is a directory (os error 21)"
  | .notDirectory => "Not a directory (os error 20)"
  | .invalidName => "file name contained an unexpected NUL byte"
  | .invalidText => "stream did not contain valid UTF-8"

/-- Paths are lists of names from the root. -/
structure FileTree where
  files : List (List String × List UInt8)
  directories : List (List String)
  /-- Where paths begin that do not begin at the root. -/
  current : List String

namespace FileTree

def empty : FileTree := ⟨[], [], []⟩

/-- The names of a path, empty ones and single dots left out. -/
def names (path : String) : List String :=
  ((Text.splitOn (· == '/') path.toList).map String.ofList).filter (fun name => name != "" && name != ".")

def isFile (tree : FileTree) (names : List String) : Bool := tree.files.any (fun file => file.1 == names)

def isDirectory (tree : FileTree) (names : List String) : Bool :=
  names.isEmpty || tree.directories.any (names.isPrefixOf ·) ||
    tree.files.any (fun file => names.isPrefixOf file.1 && file.1 != names)

/-- Follow names down from a place; a double dot leads back up. -/
def walk (tree : FileTree) (place : List String) : List String → Except FileFault (List String)
  | [] => .ok place
  | name :: rest =>
    if tree.isFile place then .error .notDirectory
    else if !tree.isDirectory place then .error .notFound
    else if name == ".." then tree.walk place.dropLast rest
    else tree.walk (place ++ [name]) rest

def start (tree : FileTree) (path : String) : List String :=
  if path.toList.head? == some '/' then [] else tree.current

/-- The place of a path that does not lead back up. -/
def place (tree : FileTree) (path : String) : List String := tree.start path ++ names path

/-- Whether a path asks for a directory by its last characters. -/
def asksForDirectory (path : String) : Bool :=
  match path.toList.reverse with
  | '/' :: _ => true
  | '.' :: '/' :: _ => true
  | _ => false

/-- The bytes of a file. -/
def read (tree : FileTree) (path : String) : Except FileFault (List UInt8) :=
  if path.toList.contains '\x00' then .error .invalidName
  else if path.isEmpty then .error .notFound
  else
    match tree.walk (tree.start path) (names path) with
    | .error fault => .error fault
    | .ok place =>
      match tree.files.lookup place with
      | some bytes => if asksForDirectory path then .error .notDirectory else .ok bytes
      | none => if tree.isDirectory place then .error .isDirectory else .error .notFound

/-- The text of a file. -/
def readText (tree : FileTree) (path : String) : Except FileFault String := do
  let bytes ← tree.read path
  if Text.isUtf8 bytes then .ok (Text.decodeUtf8 bytes) else .error .invalidText

def withFile (tree : FileTree) (path : String) (bytes : List UInt8) : FileTree :=
  { tree with files := tree.files ++ [(tree.place path, bytes)] }

def withDirectory (tree : FileTree) (path : String) : FileTree :=
  { tree with directories := tree.directories ++ [tree.place path] }

end FileTree

end OutOfBand
