import ClientGen.CommandLine

/-!
# The program

Runs the program on the files below the working directory: they are loaded, the run happens on them
as a value, and what it has changed is written back.  Files elsewhere are not seen, and no other
program is started, so the compiler counts as not installed.
-/

namespace ClientGen

/-- A tree with what is at a path of the file system. -/
partial def loadAt (place : Place) (path : String) (t : FileTree) : IO FileTree := do
  let here ← IO.FS.realPath path
  if ← here.isDir then
    let mut t := t.put place .directory
    for entry in ← here.readDir do
      t ← loadAt (place ++ [entry.fileName]) (Path.join path entry.fileName) t
    return t
  else
    let content ← IO.FS.readBinFile path
    return t.put place (.file content.toList)

/-- A tree with a directory at a place. -/
def withDirectory (t : FileTree) (place : Place) : FileTree :=
  match t.createDirectories [] (Path.joinAll "/" place) with
  | .ok t => t
  | .error _ => t

/-- Writes an entry back if it is not what it was. -/
def storeEntry (before : FileTree) (place : Place) (entry : Entry) : IO Unit := do
  if before.at? place ≠ some entry then
    let path := Path.joinAll "/" place
    match entry with
    | .directory => IO.FS.createDirAll path
    | .file content => IO.FS.writeBinFile path (ByteArray.mk content.toArray)

end ClientGen

open ClientGen

/-- Runs the program. -/
def main (args : List String) : IO UInt32 := do
  let directory := Path.parts (← IO.currentDir).toString
  let temporary := ["tmp"]
  let start := withDirectory (withDirectory {} temporary) directory
  let before ← loadAt directory "." start
  let (outcome, after) := runProgram args
    { tree := before, directory, temporary := Path.joinAll "/" temporary }
  for (place, entry) in after.tree.entries.entries do
    storeEntry before place entry
  IO.print outcome.stdout
  IO.eprint outcome.stderr
  return outcome.status.toUInt32
