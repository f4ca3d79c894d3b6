import ClientGen.Error
import ClientGen.Path
import ClientGen.Table
import ClientGen.Text.Utf8

/-!
# File trees

A file system as a value.  A place in it is the list of names on the way from the root, and the tree
is a table from places to directories and files.  In the order of places a directory comes before
everything below it and siblings come in the order of their names, so a walk through a directory is
a stretch of the table.

A tree can refuse changes at some places, as a disk does that is full or read only.  A single change
that fails leaves the tree as it was; what was done before it stays.
-/

namespace ClientGen

/-- A place in a file tree: the names on the way from the root. -/
abbrev Place := List String

/-- What is at a place. -/
inductive Entry where
  | directory
  | file (content : List UInt8)
deriving DecidableEq, Repr

/-- A file system. -/
structure FileTree where
  entries : Table Place Entry := ∅
  /-- The places at which nothing can be written or created. -/
  refuses : Place → Bool := fun _ => false
deriving Inhabited

namespace FileTree

/-! ## Places -/

/-- What is at a place; the root is always a directory. -/
def at? (t : FileTree) (place : Place) : Option Entry :=
  if place = [] then some .directory else t.entries.get? place

/-- Puts something at a place. -/
def put (t : FileTree) (place : Place) (entry : Entry) : FileTree :=
  { t with entries := t.entries.insert place entry }

/-- Follows the parts of a path.  Whatever is not the last part must lead through directories; the
last part may lead to nothing. -/
def follow (t : FileTree) : Place → List String → Except FileFault Place
  | place, [] => .ok place
  | place, part :: rest =>
      if part = "." then follow t place rest
      else if part = ".." then follow t place.dropLast rest
      else
        match rest, t.at? (place ++ [part]) with
        | [], _ => .ok (place ++ [part])
        | _ :: _, some .directory => follow t (place ++ [part]) rest
        | _ :: _, some (.file _) => .error .notADirectory
        | _ :: _, none => .error .notFound

/-- Does the text of a path promise a directory? -/
def promisesDirectory (path : String) : Bool :=
  match path.toList.reverse with
  | '/' :: _ => true
  | '.' :: '/' :: _ => true
  | _ => false

/-- The place of a path seen from a directory. -/
def locate (t : FileTree) (directory : Place) (path : String) : Except FileFault Place :=
  if path.isEmpty then .error .notFound
  else t.follow (if Path.isAbsolute path then [] else directory) (Path.parts path)

/-! ## Looking -/

/-- What a path leads to. -/
def look (t : FileTree) (directory : Place) (path : String) : Except FileFault Entry :=
  match t.locate directory path with
  | .error fault => .error fault
  | .ok place =>
      match t.at? place with
      | none => .error .notFound
      | some .directory => .ok .directory
      | some (.file content) =>
          if promisesDirectory path then .error .notADirectory else .ok (.file content)

/-- Does a path lead to something? -/
def pathExists (t : FileTree) (directory : Place) (path : String) : Bool :=
  match t.look directory path with
  | .ok _ => true
  | .error _ => false

/-- Does a path lead to a directory? -/
def isDirectory (t : FileTree) (directory : Place) (path : String) : Bool :=
  match t.look directory path with
  | .ok .directory => true
  | _ => false

/-- The bytes of a file. -/
def readBytes (t : FileTree) (directory : Place) (path : String) :
    Except FileFault (List UInt8) :=
  match t.look directory path with
  | .error fault => .error fault
  | .ok .directory => .error .isADirectory
  | .ok (.file content) => .ok content

/-- The text of a file. -/
def readText (t : FileTree) (directory : Place) (path : String) : Except FileFault String :=
  match t.readBytes directory path with
  | .error fault => .error fault
  | .ok content =>
      match Text.Utf8.decode? content with
      | some text => .ok text
      | none => .error .notText

/-! ## Changing -/

/-- Writes a file, over the one that was there. -/
def writeBytes (t : FileTree) (directory : Place) (path : String) (content : List UInt8) :
    Except FileFault FileTree :=
  match t.locate directory path with
  | .error fault => .error fault
  | .ok place =>
      if promisesDirectory path then .error .isADirectory
      else if t.at? place = some .directory then .error .isADirectory
      else if t.refuses place then .error .refused
      else .ok (t.put place (.file content))

/-- Writes a text file. -/
def writeText (t : FileTree) (directory : Place) (path text : String) :
    Except FileFault FileTree :=
  t.writeBytes directory path (Text.Utf8.encode text)

/-- Creates a directory in one that is there. -/
def createDirectoryAt (t : FileTree) (place : Place) : Except FileFault FileTree :=
  match t.at? place with
  | some _ => .error .alreadyExists
  | none => if t.refuses place then .error .refused else .ok (t.put place .directory)

/-- Follows the parts of a path, creating the directories that are missing.  Those created before a
failure stay. -/
def createAlong (t : FileTree) : Place → List String → Except FileFault Unit × FileTree
  | _, [] => (.ok (), t)
  | place, part :: rest =>
      if part = "." then createAlong t place rest
      else if part = ".." then createAlong t place.dropLast rest
      else
        match t.at? (place ++ [part]) with
        | some .directory => createAlong t (place ++ [part]) rest
        | some (.file _) => (.error .notADirectory, t)
        | none =>
            match t.createDirectoryAt (place ++ [part]) with
            | .error fault => (.error fault, t)
            | .ok t => createAlong t (place ++ [part]) rest

/-- Makes sure that a path leads to a directory, creating it with all the missing ones around it.
The empty path asks for nothing. -/
def ensureDirectories (t : FileTree) (directory : Place) (path : String) :
    Except FileFault Unit × FileTree :=
  t.createAlong (if Path.isAbsolute path then [] else directory) (Path.parts path)

/-- The tree with a directory at a path, if it can be created. -/
def createDirectories (t : FileTree) (directory : Place) (path : String) :
    Except FileFault FileTree :=
  match t.ensureDirectories directory path with
  | (.ok (), t) => .ok t
  | (.error fault, _) => .error fault

/-- Creates an empty file at a place where nothing is, in a directory that is there. -/
def createFileAt (t : FileTree) (place : Place) : Except FileFault FileTree :=
  if t.at? place.dropLast ≠ some .directory then .error .notFound
  else
    match t.at? place with
    | some _ => .error .alreadyExists
    | none => if t.refuses place then .error .refused else .ok (t.put place (.file []))

/-- Takes a place and everything below it out. -/
def remove (t : FileTree) (place : Place) : FileTree :=
  { t with entries := t.entries.filter fun p _ => !place.isPrefixOf p }

/-! ## Walking -/

/-- One stop of a walk. -/
structure Stop where
  /-- The names on the way from the start of the walk. -/
  names : List String
  /-- The path from where the walk was asked for. -/
  path : String
  entry : Entry
deriving DecidableEq, Repr

/-- The name of what is met, for which the path stands if it does not end in a name. -/
def Stop.fileName (stop : Stop) : String :=
  (Path.fileName? stop.path).getD stop.path

/-- What is at the end of some names from a stop on. -/
def Stop.onward (stop : Stop) (names : List String) (entry : Entry) : Stop :=
  ⟨stop.names ++ names, Path.joinAll stop.path names, entry⟩

/-- Everything below a place with the way there, in the order of places. -/
def below (t : FileTree) (place : Place) : List (List String × Entry) :=
  (t.entries.entries.filter fun e => place.isPrefixOf e.1 && e.1.length != place.length).map
    fun e => (e.1.drop place.length, e.2)

/-- The stop that a walk starts with, and its place. -/
def start (t : FileTree) (directory : Place) (path : String) : Except FileFault (Place × Stop) :=
  match t.look directory path, t.locate directory path with
  | .ok entry, .ok root => .ok (root, ⟨[], path, entry⟩)
  | .error fault, _ => .error fault
  | _, .error fault => .error fault

/-- A stop and everything below it, a directory before what is in it and siblings in the order of
their names. -/
def subtree (t : FileTree) (root : Place) (stop : Stop) : List Stop :=
  stop :: (t.below (root ++ stop.names)).map fun (names, entry) => stop.onward names entry

/-- Walks from a path: the start first, then everything below it. -/
def walk (t : FileTree) (directory : Place) (path : String) : Except FileFault (List Stop) :=
  (t.start directory path).map fun (root, stop) => t.subtree root stop

/-- What is directly in the directory at a stop, in the order of names.  Nothing is in a file. -/
def listing (t : FileTree) (root : Place) (stop : Stop) : List Stop :=
  match stop.entry with
  | .file _ => []
  | .directory =>
      (t.below (root ++ stop.names)).filterMap fun (names, entry) =>
        if names.length = 1 then some (stop.onward names entry) else none

/-- The length of the longest place in the tree. -/
def depth (t : FileTree) : Nat :=
  t.entries.entries.foldr (fun e depth => max e.1.length depth) 0

end FileTree

end ClientGen
