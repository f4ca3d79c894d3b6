import ClientGen.Codec.Language

/-!
# What templates see of an API

A view of an API in which the codec has spelled every name, type and comment already.  Map entries
are spelled as part of the type of a field, so they are left out of the messages.  A group of fields
has no type where the codec declines to name one; any other refusal of the codec stops the view.
-/

namespace ClientGen

/-! ## The view -/

/-- A field. -/
structure FieldView where
  name : String
  nameToSnake : String
  nameToCamel : String
  nameToPascal : String
  jsonName : String
  docLines : List String
  fieldType : String
  attributes : List String
  queryExpression : String
  optional : Bool
  repeated : Bool
  isOneOf : Bool
deriving DecidableEq, Repr

/-- A group of fields. -/
structure OneOfView where
  name : String
  nameToSnake : String
  nameToPascal : String
  docLines : List String
  /-- The type of the group, unless the language has plain fields for it. -/
  oneOfType : Option String
  fields : List FieldView
deriving DecidableEq, Repr

/-- A value of an enum. -/
structure EnumValueView where
  name : String
  qualifiedName : String
  number : Int
  docLines : List String
deriving DecidableEq, Repr

/-- An enum. -/
structure EnumView where
  name : String
  qualifiedName : String
  docLines : List String
  values : List EnumValueView
deriving DecidableEq, Repr

/-- A message with everything nested in it. -/
structure MessageView where
  id : String
  name : String
  qualifiedName : String
  docLines : List String
  fields : List FieldView
  /-- The fields that are in no group. -/
  basicFields : List FieldView
  oneOfs : List OneOfView
  messages : List MessageView
  enums : List EnumView
deriving Repr

/-- Is a message, an enum or a group declared in the message? -/
def MessageView.hasNestedTypes (m : MessageView) : Bool :=
  !m.messages.isEmpty || !m.enums.isEmpty || !m.oneOfs.isEmpty

/-- A method. -/
structure MethodView where
  name : String
  nameToSnake : String
  nameToCamel : String
  nameToPascal : String
  docLines : List String
  inputTypeName : String
  outputTypeName : String
  httpMethod : String
  bodySelector : String
  hasBody : Bool
  pathFormat : String
  pathArguments : List String
  queryFields : List FieldView
deriving DecidableEq, Repr

/-- A service. -/
structure ServiceView where
  id : String
  name : String
  nameToSnake : String
  nameToPascal : String
  defaultHost : String
  docLines : List String
  methods : List MethodView
deriving DecidableEq, Repr

/-- An API. -/
structure ApiView where
  name : String
  title : String
  description : String
  packageName : String
  manifestLines : List String
  imports : List String
  copyrightYear : String
  services : List ServiceView
  messages : List MessageView
  enums : List EnumView
deriving Repr

/-! ## Building the view -/

namespace Codec

variable (c : Codec) (t : SymbolTable)

/-- The comment lines of a documentation, none if there is no documentation. -/
def docLines (documentation : String) : List String :=
  if documentation.isEmpty then [] else c.commentLines documentation

/-- The view of a field. -/
def fieldView (f : Field) : FieldView where
  name := f.name
  nameToSnake := c.toSnake f.name
  nameToCamel := c.toCamel f.name
  nameToPascal := c.toPascal f.name
  jsonName := f.jsonName
  docLines := c.docLines f.documentation
  fieldType := c.fieldType t f
  attributes := c.fieldAttributes t f
  queryExpression := c.queryExpression t f
  optional := f.optional
  repeated := f.repeated
  isOneOf := f.isOneOf

/-- The type of a group, none if the codec declines to name it. -/
def groupType (group : OneOf) : Except GeneratorError (Option String) :=
  match c.oneOfType t group with
  | .ok spelling => .ok (some spelling)
  | .error e => if e.isUnsupported then .ok none else .error e

/-- The view of a group. -/
def oneOfView (owner : Message) (group : OneOf) : Except GeneratorError OneOfView := do
  let oneOfType ← c.groupType t group
  return {
    name := group.name
    nameToSnake := c.toSnake group.name
    nameToPascal := c.toPascal group.name
    docLines := c.docLines group.documentation
    oneOfType
    fields := (group.members owner).map (c.fieldView t) }

/-- The view of an enum value. -/
def enumValueView (v : EnumValue) : EnumValueView where
  name := c.enumValueName t v
  qualifiedName := c.qualifiedEnumValueName t v
  number := v.number
  docLines := c.docLines v.documentation

/-- The view of an enum. -/
def enumView (e : Enum) : EnumView where
  name := c.enumName t e
  qualifiedName := c.qualifiedEnumName t e
  docLines := c.docLines e.documentation
  values := e.values.map (c.enumValueView t)

/-- The nested messages that are no map entries. -/
def nestedMessages (m : Message) : List Message :=
  (m.messages.filterMap t.message?).filter (!·.isMap)

/-- The view of a message whose nested messages have been viewed. -/
def messageViewWith (m : Message) (messages : List MessageView) : Except GeneratorError MessageView := do
  let oneOfs ← m.oneOfs.mapM (c.oneOfView t m)
  return {
    id := m.id
    name := c.messageName t m
    qualifiedName := c.qualifiedMessageName t m
    docLines := c.docLines m.documentation
    fields := m.fields.map (c.fieldView t)
    basicFields := (m.fields.filter (!·.isOneOf)).map (c.fieldView t)
    oneOfs
    messages
    enums := (m.enums.filterMap t.enum?).map (c.enumView t) }

/-- The view of a message with at most the given number of levels nested in it. -/
def messageViewWithin : Nat → Message → Except GeneratorError MessageView
  | 0, m => c.messageViewWith t m []
  | levels + 1, m => do
      let messages ← (nestedMessages t m).mapM (messageViewWithin levels)
      c.messageViewWith t m messages

/-- The view of a message.  Messages that are not nested in themselves are nested no deeper than
there are messages. -/
def messageView (m : Message) : Except GeneratorError MessageView :=
  c.messageViewWithin t t.messages.size m

/-- The view of a method. -/
def methodView (m : Method) : MethodView where
  name := m.name
  nameToSnake := c.toSnake m.name
  nameToCamel := c.toCamel m.name
  nameToPascal := c.toPascal m.name
  docLines := c.docLines m.documentation
  inputTypeName := c.payloadTypeName t m.inputId
  outputTypeName := c.payloadTypeName t m.outputId
  httpMethod := m.binding.verb
  bodySelector := c.bodySelector t m
  hasBody := m.binding.body.isSome
  pathFormat := c.pathFormat t m.binding
  pathArguments := c.pathArguments t m.binding
  queryFields := (c.queryFields t m).map (c.fieldView t)

/-- The view of a service. -/
def serviceView (s : Service) : ServiceView where
  id := s.id
  name := s.name
  nameToSnake := c.toSnake s.name
  nameToPascal := c.toPascal s.name
  defaultHost := s.defaultHost
  docLines := c.docLines s.documentation
  methods := s.methods.map (c.methodView t)

/-- The view of an API. -/
def apiView (api : Api) : Except GeneratorError ApiView := do
  let messages ← api.selectedMessages.mapM (c.messageView api.symbols)
  return {
    name := api.name
    title := api.title
    description := api.description
    packageName := c.packageName api
    manifestLines := c.manifestLines
    imports := c.imports api
    copyrightYear := c.copyrightYear
    services := api.selectedServices.map (c.serviceView api.symbols)
    messages
    enums := api.selectedEnums.map (c.enumView api.symbols) }

end Codec

end ClientGen
