/-!
# File paths

Paths as texts, read component by component.  Repeated slashes, a slash at the end and every `.` but
one at the start make no difference to the components, but the text is what is shown to people and
programs, so it is kept.
-/

namespace ClientGen.Path

/-- One component of a path. -/
inductive Component where
  | root
  | current
  | parent
  | name (text : String)
deriving DecidableEq, Repr

/-- Is the text the path of a place counted from the root? -/
def isAbsolute (path : String) : Bool :=
  path.toList.head? = some '/'

/-- The texts between the slashes of a path that are not empty. -/
def parts (path : String) : List String :=
  ((path.toList.splitOn '/').filter (· ≠ [])).map String.ofList

/-- The component that a part stands for, none for a dot. -/
def componentOf (part : String) : Option Component :=
  if part = "." then none else if part = ".." then some .parent else some (.name part)

/-- The components of a path. -/
def components (path : String) : List Component :=
  let rest := (parts path).filterMap componentOf
  if isAbsolute path then .root :: rest
  else if (parts path).head? = some "." then .current :: rest
  else rest

/-- Are the components of `ending` the last ones of `path`? -/
def endsWith (path ending : String) : Bool :=
  (components ending).reverse.isPrefixOf (components path).reverse

/-- The last component, if it is a name. -/
def fileName? (path : String) : Option String :=
  match (components path).getLast? with
  | some (.name text) => some text
  | _ => none

/-- Splits a file name at its last dot, unless that dot is the first character. -/
def splitExtension (fileName : String) : String × Option String :=
  match fileName.toList.reverse.dropWhile (· ≠ '.') with
  | _ :: (c :: stem) =>
      (String.ofList (c :: stem).reverse,
        some (String.ofList (fileName.toList.reverse.takeWhile (· ≠ '.')).reverse))
  | _ => (fileName, none)

/-- What follows the last dot of the file name. -/
def extension? (path : String) : Option String :=
  (fileName? path).bind fun name => (splitExtension name).2

/-- A path inside another one. -/
def join (path inside : String) : String :=
  if isAbsolute inside then inside
  else if path.isEmpty || path.toList.getLast? = some '/' then path ++ inside
  else path ++ "/" ++ inside

/-- A path inside another one, given by names. -/
def joinAll (path : String) (names : List String) : String :=
  names.foldl join path

/-- The names on a way, separated by slashes. -/
def slashed (names : List String) : String :=
  String.ofList (['/'].intercalate (names.map String.toList))

end ClientGen.Path
