import ClientGen.Project.FileTree

/-!
# The world of a run

What a run of the generator can see and change: a file tree, the directory it works in, the
directory for temporary files, and a compiler for specifications, if one is installed.  The world
also keeps the arguments of every call of the compiler.

An action changes the world and ends with a result or an error; what was changed before an error
stays changed.
-/

namespace ClientGen

/-- What a run of the compiler does to the file that it is to write. -/
inductive CompilerOutput where
  | untouched
  | written (content : List UInt8)
  | removed
deriving DecidableEq, Repr

/-- One run of the compiler. -/
structure CompilerRun where
  status : ExitStatus
  stderr : List UInt8 := []
  output : CompilerOutput := .untouched
deriving DecidableEq, Repr

/-- A compiler: what it does with the files it finds, the directory it is started in, and its
arguments. -/
abbrev Compiler := FileTree → Place → List String → CompilerRun

/-- What a run of the generator can see and change. -/
structure World where
  tree : FileTree
  /-- The directory that paths are seen from. -/
  directory : Place := []
  /-- The path of the directory for temporary files. -/
  temporary : String
  /-- The compiler, if there is one. -/
  compiler : Option Compiler := none
  /-- The arguments of the calls of the compiler so far. -/
  calls : List (List String) := []
  /-- The year that copyright headers name if nothing else is asked for. -/
  currentYear : String := ""

/-- Something that is done to the world and can fail. -/
abbrev Action (ε α : Type) := ExceptT ε (StateM World) α

namespace Action

variable {ε δ α : Type}

/-- A result that needs no world. -/
def ofExcept : Except ε α → Action ε α
  | .ok a => pure a
  | .error e => throw e

/-- An action with other errors. -/
def mapError (f : ε → δ) (a : Action ε α) : Action δ α :=
  ExceptT.mk (do return (← a.run).mapError f)

/-- Looks at the file tree from the working directory. -/
def look (f : FileTree → Place → Except FileFault α) : Action GeneratorError α := do
  let w ← get
  ofExcept ((f w.tree w.directory).mapError .file)

/-- Changes the file tree from the working directory. -/
def change (f : FileTree → Place → Except FileFault FileTree) : Action FileFault Unit := do
  let w ← get
  let tree ← ofExcept (f w.tree w.directory)
  set { w with tree }

/-- Works on the file tree from the working directory.  What was changed before a failure stays. -/
def work (f : FileTree → Place → Except ε Unit × FileTree) : Action ε Unit := do
  let w ← get
  let (result, tree) := f w.tree w.directory
  set { w with tree }
  ofExcept result

/-- Does something whatever else fails, and then something last. -/
def thenAlways (a : Action ε α) (last : World → World) : Action ε α :=
  ExceptT.mk (do
    let result ← a.run
    modify last
    return result)

end Action

/-! ## Temporary files -/

/-- The name of a temporary file. -/
def temporaryName (number : Nat) : String :=
  "protoc-out-" ++ toString number

namespace FileTree

/-- The name of a temporary file that is not in use in a directory. -/
def freeName? (t : FileTree) (place : Place) : Option String :=
  ((List.range (t.entries.size + 1)).map temporaryName).find? fun name =>
    (t.at? (place ++ [name])).isNone

/-- Creates an empty temporary file in a directory, and gives its place and its path. -/
def createTemporary (t : FileTree) (directory : Place) (path : String) :
    Except FileFault (Place × String × FileTree) := do
  let place ← t.locate directory path
  match t.freeName? place with
  | none => .error .alreadyExists
  | some name =>
      let tree ← t.createFileAt (place ++ [name])
      return (place ++ [name], Path.join path name, tree)

end FileTree

/-- Does something with a temporary file, which is gone afterwards, also after a failure. -/
def withTemporaryFile {α : Type} (body : Place → String → Action GeneratorError α) :
    Action GeneratorError α := do
  let w ← get
  let (place, path, tree) ← Action.ofExcept
    ((w.tree.createTemporary w.directory w.temporary).mapError .file)
  set { w with tree }
  (body place path).thenAlways fun w => { w with tree := w.tree.remove place }

end ClientGen
