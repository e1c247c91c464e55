import GraphBatch.Cli.Exit

/-!
# The program
-/

namespace GraphBatch

/-- The variables in a block of `NAME=VALUE` entries, each ended by a zero byte. -/
def Host.varsOfBlock (block : ByteArray) : List (String × String) :=
  let entries := block.toList.splitBy fun a b => a ≠ 0 && b ≠ 0
  entries.filterMap fun entry =>
    match entry.splitAt (entry.idxOf '='.toUInt8) with
    | (name, _ :: value) => do
      return (← String.fromUTF8? ⟨name.toArray⟩, ← String.fromUTF8? ⟨value.toArray⟩)
    | (_, []) => none

/-- A file of the machine the program runs on. -/
def Host.readFile (path : String) : IO (Except FileFault ByteArray) := do
  try
    return .ok (← IO.FS.readBinFile path)
  catch
    | .noFileOrDirectory .. => return .error .missing
    | .inappropriateType none .. => return .error .directory
    | .inappropriateType (some _) .. => return .error .notDirectory
    | e => return .error (.other (toString e))

def Host.current : IO (Host IO) := do
  return {
    vars := Host.varsOfBlock (← IO.FS.readBinFile "/proc/self/environ")
    directory := toString (← IO.currentDir)
    read := Host.readFile }

end GraphBatch

def main (args : List String) : IO UInt32 := do
  let exit ← GraphBatch.Cli.run args (← GraphBatch.Host.current)
  IO.print exit.output
  IO.eprint exit.errors
  return exit.code.toUInt32
