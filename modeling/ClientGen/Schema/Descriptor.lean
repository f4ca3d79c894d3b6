/-!
# Descriptors

What the schema compiler says about the schema files: the part of its descriptor format that a
generator needs.  Every optional value can be absent, which differs from being empty; `textOf` is
where the difference stops to matter.
-/

namespace ClientGen

/-- An optional text, empty if absent. -/
def textOf (text : Option String) : String :=
  text.getD ""

/-! ## Fields, groups and enums -/

/-- A field of a message. -/
structure FieldDescriptor where
  name : Option String := none
  number : Option Int32 := none
  label : Option Int32 := none
  type : Option Int32 := none
  typeName : Option String := none
  oneofIndex : Option Int32 := none
  jsonName : Option String := none
  proto3Optional : Option Bool := none
deriving DecidableEq, Inhabited

/-- The label of a repeated field. -/
def repeatedLabel : Int32 := 3

/-- The declaration of a group of fields. -/
structure OneofDescriptor where
  name : Option String := none
deriving DecidableEq, Inhabited

/-- A value of an enum. -/
structure EnumValueDescriptor where
  name : Option String := none
  number : Option Int32 := none
deriving DecidableEq, Inhabited

/-- An enum. -/
structure EnumDescriptor where
  name : Option String := none
  values : List EnumValueDescriptor := []
deriving DecidableEq, Inhabited

/-! ## Messages -/

/-- The options of a message. -/
structure MessageOptions where
  mapEntry : Option Bool := none
deriving DecidableEq, Inhabited

/-- A message with everything nested in it. -/
structure MessageDescriptor where
  name : Option String := none
  fields : List FieldDescriptor := []
  nestedTypes : List MessageDescriptor := []
  enumTypes : List EnumDescriptor := []
  options : Option MessageOptions := none
  oneofDecls : List OneofDescriptor := []
deriving Inhabited

/-! ## Services -/

/-- The pattern of an HTTP rule: a method and a path template. -/
inductive HttpPattern where
  | get (path : String)
  | put (path : String)
  | post (path : String)
  | delete (path : String)
  | patch (path : String)
  | custom (kind path : String)
deriving DecidableEq

/-- The HTTP rule of a method. -/
structure HttpRule where
  selector : String := ""
  body : String := ""
  pattern : Option HttpPattern := none
deriving DecidableEq, Inhabited

/-- The options of a method. -/
structure MethodOptions where
  http : Option HttpRule := none
deriving DecidableEq, Inhabited

/-- A method of a service. -/
structure MethodDescriptor where
  name : Option String := none
  inputType : Option String := none
  outputType : Option String := none
  options : Option MethodOptions := none
deriving DecidableEq, Inhabited

/-- The options of a service. -/
structure ServiceOptions where
  defaultHost : Option String := none
deriving DecidableEq, Inhabited

/-- A service. -/
structure ServiceDescriptor where
  name : Option String := none
  methods : List MethodDescriptor := []
  options : Option ServiceOptions := none
deriving DecidableEq, Inhabited

/-! ## Files -/

/-- A comment and the path of the element it stands before. -/
structure Location where
  path : List Int32 := []
  leadingComments : Option String := none
deriving DecidableEq, Inhabited

/-- The comments of a file. -/
structure SourceInfo where
  locations : List Location := []
deriving DecidableEq, Inhabited

/-- A schema file. -/
structure FileDescriptor where
  name : Option String := none
  package : Option String := none
  messageTypes : List MessageDescriptor := []
  enumTypes : List EnumDescriptor := []
  services : List ServiceDescriptor := []
  sourceInfo : Option SourceInfo := none
deriving Inhabited

/-- Everything the compiler was given: the files and the files they import. -/
structure DescriptorSet where
  files : List FileDescriptor := []
deriving Inhabited

end ClientGen
