import OutOfBand.CommandLine.Exit

/-! # The program

Gathers the environment and the files that a run reads, runs it, and prints what it ends in. No
transport is linked in, so every connection is refused.
-/
namespace OutOfBand

/-- The variables of the process. -/
def readEnvironment : IO Environment := do
  let bytes ← try IO.FS.readBinFile "/proc/self/environ" catch _ => pure .empty
  let entries := Text.splitOn (· == '\x00') (Text.decodeUtf8 bytes.toList).toList
  pure (Fields.ofList ((entries.filter (·.contains '=')).map fun entry =>
    (String.ofList (entry.takeWhile (· != '=')), String.ofList ((entry.dropWhile (· != '=')).drop 1))))

/-- Take a file into the tree, if there is one. -/
def loadFile (files : FileTree) (path : String) : IO FileTree := do
  try
    let bytes ← IO.FS.readBinFile path
    pure (files.withFile path bytes.toList)
  catch
    | .inappropriateType .. => pure (files.withDirectory path)
    | _ => pure files

def noDevice : Wire := ⟨⟨.domain [], 0, false, none, []⟩, []⟩

end OutOfBand

open OutOfBand in
def main (args : List String) : IO UInt32 := do
  let env ← readEnvironment
  let current ← IO.currentDir
  let place : FileTree := { FileTree.empty with current := FileTree.names current.toString }
  let known ← (CommandLine.wantedFiles args place env).foldlM loadFile place
  let files ← (CommandLine.wantedFiles args known env).foldlM loadFile place
  let (exit, _) := CommandLine.execute args files env noDevice
  IO.print exit.output
  IO.eprint exit.errorText
  pure exit.code.toUInt32
