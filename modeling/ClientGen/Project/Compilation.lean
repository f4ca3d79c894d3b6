import ClientGen.Project.World
import ClientGen.Schema.Compiled
import ClientGen.Wire.DescriptorFormat

/-!
# Compiling protobuf files

The protobuf compiler is given the input files and writes their description, together with that of
everything they import, to a temporary file.  The steps are taken in this order, and the first that
fails decides the error: the temporary file, the input files, the compiler, reading, decoding.
-/

namespace ClientGen

/-! ## Input files -/

/-- The extension of protobuf files. -/
def protoExtension : String := "proto"

/-- Is the path that of a protobuf file? -/
def isProto (path : String) : Bool :=
  Path.extension? path = some protoExtension

namespace FileTree

/-- The path of the protobuf file at a stop, if there is one. -/
def protoFileAt? (stop : Stop) : Option String :=
  match stop.entry with
  | .file _ => if isProto stop.path then some stop.path else none
  | .directory => none

/-- The files to compile: the source itself if it is named like a protobuf file, else all protobuf
files below it, in the order of a walk. -/
def inputFiles (t : FileTree) (directory : Place) (source : String) :
    Except GeneratorError (List String) :=
  if isProto source then .ok [source]
  else
    match t.walk directory source with
    | .ok stops => .ok (stops.filterMap protoFileAt?)
    | .error _ => .error (.walk source)

end FileTree

/-! ## The compiler -/

/-- The name of the compiler. -/
def compilerName : String := "protoc"

/-- The options that name directories in which imported files are looked for, in the order in which
the compiler gets them. -/
def importRootOptions : List String :=
  ["googleapis-root", "input-root"]

/-- The arguments for one import directory; an empty path stands for none. -/
def importRootArgs (options : Table String String) (name : String) : List String :=
  match options.get? name with
  | some path => if path.isEmpty then [] else ["--proto_path", path]
  | none => []

/-- The arguments of the compiler: what to write, where to, where to look for imported files, and
the input files. -/
def compilerArgs (output : String) (files : List String) (options : Table String String) :
    List String :=
  ["--include_imports", "--include_source_info", "--retain_options",
    "--descriptor_set_out", output] ++ importRootOptions.flatMap (importRootArgs options) ++ files

/-- What the compiler leaves of the file that it is to write. -/
def CompilerOutput.apply (output : CompilerOutput) (place : Place) (t : FileTree) : FileTree :=
  match output with
  | .untouched => t
  | .written content => t.put place (.file content)
  | .removed => t.remove place

/-- Runs the compiler, which is to write to a file, and reads that file. -/
def runCompiler (place : Place) (output : String) (files : List String)
    (options : Table String String) : Action GeneratorError (List UInt8) := do
  let w ← get
  match w.compiler with
  | none => throw (.compilerNotFound compilerName)
  | some compiler =>
      let args := compilerArgs output files options
      let run := compiler w.tree w.directory args
      set { w with tree := run.output.apply place w.tree, calls := w.calls ++ [args] }
      if !run.status.isSuccess then
        throw (.compilerFailed run.status (Text.Utf8.decodeLossy run.stderr))
      Action.look fun tree directory => tree.readBytes directory output

/-- A way to find the input files, seen from a directory. -/
abbrev InputSearch := FileTree → Place → Except GeneratorError (List String)

/-- Compiles the files that a search finds and selects what to generate from. -/
def compileInputs (search : InputSearch) (options : Table String String) :
    Action GeneratorError CompiledFiles :=
  withTemporaryFile fun place output => do
    let w ← get
    let files ← Action.ofExcept (search w.tree w.directory)
    let content ← runCompiler place output files options
    match Wire.decodeDescriptorSet content with
    | none => throw .descriptors
    | some set => return CompiledFiles.ofSet files set

/-- Compiles the files of a source. -/
def compileSource (source : String) (options : Table String String) :
    Action GeneratorError CompiledFiles :=
  compileInputs (·.inputFiles · source) options

end ClientGen
