import ClientGen.Api.Identifier
import ClientGen.Schema.Descriptor

/-!
# Where comments belong

The compiler reports a comment with a path to the element it stands before: pairs of the number of a
collection and an index into it.

| scope | number | collection |
|---|---|---|
| file | 4, 5, 6 | messages, enums, services |
| message | 2, 3, 4, 8 | fields, nested messages, nested enums, groups |
| enum | 2 | values |
| service | 2 | methods |

Resolving a path names the element; whether the symbol table has it is another question.
-/

namespace ClientGen

/-- The element that a comment belongs to. -/
inductive DocTarget where
  | message (id : String)
  | field (message field : String)
  | oneOf (message oneOf : String)
  | enum (id : String)
  | enumValue (enum value : String)
  | service (id : String)
  | method (service method : String)
deriving DecidableEq, Repr

/-- The element of a collection at an index, which may be negative or out of range. -/
def elementAt? {α : Type} (items : List α) (index : Int32) : Option α :=
  if index < 0 then none else items[index.toInt.toNat]?

/-- Follows a path from an enum. -/
def EnumDescriptor.resolve (d : EnumDescriptor) (id : String) : List Int32 → Option DocTarget
  | [] => some (.enum id)
  | [2, index] => (elementAt? d.values index).map fun v => .enumValue id (textOf v.name)
  | _ => none

/-- Follows a path from a service. -/
def ServiceDescriptor.resolve (d : ServiceDescriptor) (id : String) : List Int32 → Option DocTarget
  | [] => some (.service id)
  | [2, index] => (elementAt? d.methods index).map fun m => .method id (textOf m.name)
  | _ => none

/-- Follows a path from a message. -/
def MessageDescriptor.resolve (d : MessageDescriptor) (id : String) :
    List Int32 → Option DocTarget
  | [] => some (.message id)
  | [_] => none
  | number :: index :: rest =>
      if number = 2 then
        if rest.isEmpty then
          (elementAt? d.fields index).map fun f => .field id (Identifier.child id (textOf f.name))
        else none
      else if number = 3 then
        (elementAt? d.nestedTypes index).bind fun m =>
          m.resolve (Identifier.child id (textOf m.name)) rest
      else if number = 4 then
        (elementAt? d.enumTypes index).bind fun e =>
          e.resolve (Identifier.child id (textOf e.name)) rest
      else if number = 8 then
        if rest.isEmpty then
          (elementAt? d.oneofDecls index).map fun o =>
            .oneOf id (Identifier.child id (textOf o.name))
        else none
      else none

/-- Follows a path from a file. -/
def FileDescriptor.resolve (d : FileDescriptor) (path : List Int32) : Option DocTarget :=
  let scope := Identifier.ofPackage (textOf d.package)
  match path with
  | number :: index :: rest =>
      if number = 4 then
        (elementAt? d.messageTypes index).bind fun m =>
          m.resolve (Identifier.child scope (textOf m.name)) rest
      else if number = 5 then
        (elementAt? d.enumTypes index).bind fun e =>
          e.resolve (Identifier.child scope (textOf e.name)) rest
      else if number = 6 then
        (elementAt? d.services index).bind fun s =>
          s.resolve (Identifier.child scope (textOf s.name)) rest
      else none
  | _ => none

end ClientGen
