/-!
# Fully qualified identifiers

Every message, enum and service has an identifier `.package.Outer.Inner`.  The leading dot is the
root.  The identifier of an element extends that of the element around it by a dot and its own
name, and `parentName` takes that last step back.
-/

namespace ClientGen.Identifier

/-- The identifier of the root, the parent of top level elements without a package. -/
def root : String := "."

/-- The text before the last dot, if there is a dot. -/
def beforeLastDot (id : List Char) : Option (List Char) :=
  match id.reverse.dropWhile (· ≠ '.') with
  | [] => none
  | _ :: rest => some rest.reverse

/-- The identifier of the enclosing element: the last component dropped, the root if nothing is
left. -/
def parentName (id : String) : String :=
  match beforeLastDot id.toList with
  | none => root
  | some [] => root
  | some parent => String.ofList parent

/-- What the identifiers of a package start with: nothing for the unnamed package. -/
def ofPackage (package : String) : String :=
  if package.isEmpty then "" else "." ++ package

/-- The identifier of the element `name` inside `parent`. -/
def child (parent name : String) : String :=
  parent ++ "." ++ name

/-- An identifier without its leading dots. -/
def withoutRoot (id : String) : String :=
  String.ofList (id.toList.dropWhile (· = '.'))

end ClientGen.Identifier
