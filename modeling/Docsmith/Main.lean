-- SUMMARY: The command line.
import Docsmith.Command.Run
import Docsmith.Markdown.Render

/-!
# The command line

The names of the files of a project come in on standard input, one a line. The
command that the arguments name runs on the contents of those files; texts that it
leaves are printed and files that it leaves are written. No outside tool is started,
so commands that need one say that it is missing.
-/

namespace Docsmith.Command

/-- The lines of a stream without their breaks. -/
partial def streamLines (input : IO.FS.Stream) (found : List String) : IO (List String) := do
  let line ← input.getLine
  if line.isEmpty then return found.reverse
  streamLines input (String.ofList (Text.stripEnd line.toList) :: found)

/-- The tree of the named files. -/
def readTree : FileTree → List String → IO FileTree
  | disk, [] => return disk
  | disk, name :: names => do
    let bytes ← IO.FS.readBinFile name
    readTree (disk.put (Path.ofString name).parts (.file bytes.toList)) names

/-- Write a file below its folder. -/
def writeBytes (parts : List String) (bytes : List UInt8) : IO Unit := do
  if 1 < parts.length then IO.FS.createDirAll ("/".intercalate parts.dropLast)
  IO.FS.writeBinFile ("/".intercalate parts) ⟨bytes.toArray⟩

/-- Write the files that are new or changed. -/
def writeChanged (before after : FileTree) : IO Unit :=
  after.files.forM fun f => match after.bytes? f.parts with
    | some bytes => if before.bytes? f.parts == some bytes then pure () else writeBytes f.parts bytes
    | none => pure ()

end Docsmith.Command

open Docsmith Docsmith.Command in
/-- Run the command that the arguments name. -/
def main (args : List String) : IO UInt32 := do
  let names ← streamLines (← IO.getStdin) []
  let disk ← readTree FileTree.empty (names.filter fun n => !n.isEmpty)
  let world : World := { disk := disk, here := Path.ofString ".", render := Markdown.render }
  let o := world.run args
  IO.print o.out
  IO.eprint o.err
  writeChanged disk o.disk
  return UInt32.ofNat o.status
