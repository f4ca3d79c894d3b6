import ClientGen.Table

/-!
# The elements of an API

Messages, enums and services as a generator sees them, whatever schema language they were written
in.  Elements refer to each other by identifier only: a parent lists the identifiers of its
children in declaration order and a child names its parent.
-/

namespace ClientGen

/-! ## Fields -/

/-- The kind of value a field holds. -/
inductive TypeKind where
  | double | float | int64 | uint64 | int32 | fixed64 | fixed32 | bool | string | group | message
  | bytes | uint32 | enum | sfixed32 | sfixed64 | sint32 | sint64 | undefined
deriving DecidableEq, Repr, Inhabited

namespace TypeKind

/-- The name of the kind in schema files. -/
def name : TypeKind → String
  | .double => "double"
  | .float => "float"
  | .int64 => "int64"
  | .uint64 => "uint64"
  | .int32 => "int32"
  | .fixed64 => "fixed64"
  | .fixed32 => "fixed32"
  | .bool => "bool"
  | .string => "string"
  | .group => "group"
  | .message => "message"
  | .bytes => "bytes"
  | .uint32 => "uint32"
  | .enum => "enum"
  | .sfixed32 => "sfixed32"
  | .sfixed64 => "sfixed64"
  | .sint32 => "sint32"
  | .sint64 => "sint64"
  | .undefined => "undefined"

/-- Every kind, in the order of the numbers that stand for them on the wire, which start at one;
`undefined` has no number. -/
def all : List TypeKind :=
  [.double, .float, .int64, .uint64, .int32, .fixed64, .fixed32, .bool, .string, .group, .message,
    .bytes, .uint32, .enum, .sfixed32, .sfixed64, .sint32, .sint64]

/-- The kind of a name. -/
def ofName (s : String) : TypeKind :=
  (all.find? (·.name = s)).getD .undefined

/-- The kind of a number on the wire. -/
def ofNumber? (n : Int) : Option TypeKind :=
  if n < 1 then none else all[(n - 1).toNat]?

/-- Does a field of this kind refer to another element by identifier? -/
def isReference : TypeKind → Bool
  | .message | .enum | .group => true
  | _ => false

end TypeKind

/-- A field of a message. -/
structure Field where
  id : String := ""
  name : String := ""
  /-- The name in the JSON mapping. -/
  jsonName : String := ""
  kind : TypeKind := .undefined
  /-- The message or enum referred to. -/
  typeId : Option String := none
  repeated : Bool := false
  /-- Is presence tracked? -/
  optional : Bool := false
  /-- Is the field a member of a declared group of which at most one is set? -/
  isOneOf : Bool := false
  documentation : String := ""
deriving DecidableEq, Repr, Inhabited

/-! ## Messages -/

/-- A group of fields of which at most one is set. -/
structure OneOf where
  id : String := ""
  name : String := ""
  /-- The message that owns the group. -/
  parent : String := ""
  /-- The identifiers of the members, in declaration order. -/
  fields : List String := []
  documentation : String := ""
deriving DecidableEq, Repr, Inhabited

/-- A message. -/
structure Message where
  id : String := ""
  name : String := ""
  package : String := ""
  /-- The enclosing message, if the message is nested. -/
  parent : Option String := none
  /-- Nested messages, in declaration order. -/
  messages : List String := []
  /-- Nested enums, in declaration order. -/
  enums : List String := []
  oneOfs : List OneOf := []
  fields : List Field := []
  /-- Is this the key and value entry behind a map field? -/
  isMap : Bool := false
  documentation : String := ""
deriving DecidableEq, Repr, Inhabited

namespace Message

/-- The field of an identifier. -/
def field? (m : Message) (id : String) : Option Field :=
  m.fields.find? (·.id = id)

/-- The field of a name. -/
def fieldNamed? (m : Message) (name : String) : Option Field :=
  m.fields.find? (·.name = name)

/-- The group of an identifier. -/
def oneOf? (m : Message) (id : String) : Option OneOf :=
  m.oneOfs.find? (·.id = id)

/-- The key and the value of a map entry, which has exactly two fields. -/
def mapFields? (m : Message) : Option (Field × Field) :=
  match m.isMap, m.fields with
  | true, [key, value] => some (key, value)
  | _, _ => none

end Message

/-- The members of a group, looked up in the message that owns it; strangers are left out. -/
def OneOf.members (group : OneOf) (owner : Message) : List Field :=
  group.fields.filterMap owner.field?

/-! ## Enums -/

/-- A named value of an enum. -/
structure EnumValue where
  name : String := ""
  number : Int := 0
  /-- The enum that owns the value. -/
  parent : String := ""
  documentation : String := ""
deriving DecidableEq, Repr, Inhabited

/-- An enumeration. -/
structure Enum where
  id : String := ""
  name : String := ""
  package : String := ""
  /-- The enclosing message, if the enum is nested. -/
  parent : Option String := none
  values : List EnumValue := []
  documentation : String := ""
deriving DecidableEq, Repr, Inhabited

/-! ## Services -/

/-- One part of a path template. -/
inductive PathSegment where
  /-- Text that stands for itself. -/
  | literal (text : String)
  /-- A request field, possibly inside others: `book.shelf`. -/
  | variable (path : String)
  /-- The custom verb at the end. -/
  | verb (text : String)
deriving DecidableEq, Repr, Inhabited

/-- A set of names, listed in ascending order. -/
abbrev NameSet := Table String Unit

namespace NameSet

/-- The set of the names in a list. -/
def ofNames (names : List String) : NameSet :=
  Table.ofList (names.map (·, ()))

/-- The names in ascending order. -/
def toNames (s : NameSet) : List String :=
  s.keys

end NameSet

/-- How a method travels over HTTP. -/
structure HttpBinding where
  /-- The HTTP method. -/
  verb : String := ""
  template : List PathSegment := []
  /-- The request fields sent in the query. -/
  queryParameters : NameSet := ∅
  /-- The request field sent as the body; `*` is the whole request. -/
  body : Option String := none
deriving DecidableEq, Inhabited

/-- The body value that names the whole request. -/
def wholeRequest : String := "*"

/-- Is the whole request the body? -/
def HttpBinding.bodyIsRequest (b : HttpBinding) : Bool :=
  b.body = some wholeRequest

/-- A remote procedure. -/
structure Method where
  name : String := ""
  inputId : String := ""
  outputId : String := ""
  binding : HttpBinding := {}
  documentation : String := ""
deriving DecidableEq, Inhabited

/-- A service. -/
structure Service where
  id : String := ""
  name : String := ""
  package : String := ""
  /-- The host that serves it unless the caller says otherwise. -/
  defaultHost : String := ""
  methods : List Method := []
  documentation : String := ""
deriving DecidableEq, Inhabited

end ClientGen
