import ClientGen.Path
import ClientGen.Schema.Descriptor

/-!
# What to generate

The compiler describes the files it was given together with all that they import.  It names a file
by its path below some import directory, so a description belongs to an input file when its name is
the end of that file's path, component by component.
-/

namespace ClientGen

/-- The descriptions of all files, and those to generate from. -/
structure CompiledFiles where
  /-- The input files, as given to the compiler. -/
  inputs : List String := []
  /-- The descriptions of the input files. -/
  targets : List FileDescriptor := []
  /-- All descriptions, imports included. -/
  files : List FileDescriptor := []
deriving Inhabited

/-- Does the description belong to one of the input files? -/
def FileDescriptor.isTargetOf (file : FileDescriptor) (inputs : List String) : Bool :=
  let name := textOf file.name
  !name.isEmpty && inputs.any (Path.endsWith · name)

/-- Selects the descriptions of the input files, in the order of the set. -/
def CompiledFiles.ofSet (inputs : List String) (set : DescriptorSet) : CompiledFiles where
  inputs
  targets := set.files.filter (·.isTargetOf inputs)
  files := set.files

end ClientGen
