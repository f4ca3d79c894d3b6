import ClientGen.Api.Identifier
import ClientGen.Codec.Language
import ClientGen.Codec.QueryParameters
import ClientGen.Naming
import ClientGen.Text.Blank
import ClientGen.Text.Lines

/-!
# The Go codec

Spells an API the way Go clients are written by hand: nested types joined with underscores, messages
held by pointer, enums as named integers, reserved words escaped by an underscore at the end.

The walks along parents and along map entries are bounded by the number of messages in the symbol
table.  A walk that never meets the same message twice stays within that bound.
-/

namespace ClientGen

/-! ## Reserved words -/

/-- The keywords of Go. -/
def goKeywords : List String :=
  ["break", "case", "chan", "const", "continue", "default", "defer", "else", "fallthrough", "for",
    "func", "go", "goto", "if", "import", "interface", "map", "package", "range", "return",
    "select", "struct", "switch", "type", "var"]

/-- Appends an underscore to a keyword. -/
def escapeGoKeyword (symbol : String) : String :=
  if symbol ∈ goKeywords then symbol ++ "_" else symbol

/-! ## Options -/

/-- A Go package that the generated code imports. -/
structure GoImport where
  path : String
  /-- The name that qualifies what the package declares. -/
  name : String
deriving DecidableEq, Repr

/-- The settings of the Go codec. -/
structure GoCodec where
  /-- The year in copyright headers. -/
  year : String
  /-- The name of the package, unless it is that of the API. -/
  packageNameOverride : Option String := none
  /-- The package name that templates see. -/
  goPackageName : String := ""
  /-- The Go package of each schema package that has one. -/
  importMap : Table String GoImport := ∅

namespace GoCodec

/-- The name of the language. -/
def language : String := "go"

/-- The option that maps a schema package to a Go package. -/
def importMapping : String := "import-mapping"

/-- The package of the stand-ins for the well known time types. -/
def timePackage : String := "time"

/-- Reads an import mapping: the key names one schema package after a colon, the value is a path and
a name with a semicolon between. -/
def parseImportMapping (key value : String) : Except GeneratorError (String × GoImport) :=
  match key.toList.splitOn ':' with
  | [option, package] =>
      if option = importMapping.toList ∧ package ≠ [] then
        match value.toList.splitOn ';' with
        | [path, name] =>
            if path ≠ [] ∧ name ≠ [] then
              .ok (String.ofList package, ⟨String.ofList path, String.ofList name⟩)
            else .error (.importMappingValue key value)
        | _ => .error (.importMappingValue key value)
      else .error (.importMappingKey key)
  | _ => .error (.importMappingKey key)

/-- Takes one option into account; unknown options are ignored. -/
def withOption (c : GoCodec) (option : String × String) : Except GeneratorError GoCodec :=
  let (key, value) := option
  if key = "package-name-override" then .ok { c with packageNameOverride := some value }
  else if key = "go-package-name" then .ok { c with goPackageName := value }
  else if key = "copyright-year" then .ok { c with year := value }
  else if importMapping.toList.isPrefixOf key.toList then
    match parseImportMapping key value with
    | .ok (package, target) => .ok { c with importMap := c.importMap.insert package target }
    | .error e => .error e
  else .ok c

/-- The codec of some options, taken in the order of their keys. -/
def ofOptions (currentYear : String) (options : Table String String) : Except GeneratorError GoCodec :=
  options.entries.foldlM withOption { year := currentYear }

/-! ## Names -/

/-- The conversions that the codec offers to templates escape keywords. -/
def toPascal (symbol : String) : String :=
  escapeGoKeyword (Naming.toPascalCase symbol)

/-- Lower camel case, with keywords escaped. -/
def toCamel (symbol : String) : String :=
  escapeGoKeyword (Naming.toCamelCase symbol)

/-- Snake case, with keywords escaped; a symbol without capitals stays as it is. -/
def toSnake (symbol : String) : String :=
  if Naming.toLowercase symbol = symbol then escapeGoKeyword symbol
  else escapeGoKeyword (Naming.toSnakeCase symbol)

/-- The name that qualifies what a schema package declares, if anything does. -/
def packageAlias (c : GoCodec) (package : String) : Option String :=
  match c.importMap.get? package with
  | some target => some target.name
  | none => if package = timePackage then some timePackage else none

/-- The name of a top level type. -/
def topLevelName (c : GoCodec) (package name : String) : String :=
  match c.packageAlias package with
  | some qualifier => qualifier ++ "." ++ Naming.toPascalCase name
  | none => toPascal name

/-- The name of a message, with at most the given number of steps to enclosing messages. -/
def messageNameWithin (c : GoCodec) (t : SymbolTable) : Nat → Message → String
  | 0, m => c.topLevelName m.package m.name
  | steps + 1, m =>
      match m.parent.bind t.message? with
      | some parent => c.messageNameWithin t steps parent ++ "_" ++ Naming.toPascalCase m.name
      | none => c.topLevelName m.package m.name

/-- The name of a message: those of the enclosing messages and its own, joined by underscores. -/
def messageName (c : GoCodec) (t : SymbolTable) (m : Message) : String :=
  c.messageNameWithin t t.messages.size m

/-- The name of an enum, which follows that of the enclosing message. -/
def enumName (c : GoCodec) (t : SymbolTable) (e : Enum) : String :=
  match e.parent.bind t.message? with
  | some parent => c.messageName t parent ++ "_" ++ Naming.toPascalCase e.name
  | none => c.topLevelName e.package e.name

/-- The constant of an enum value.  The enum's own name is left out, as its values live in the scope
around it. -/
def enumValueName (c : GoCodec) (t : SymbolTable) (v : EnumValue) : String :=
  match ((t.enum? v.parent).bind (·.parent)).bind t.message? with
  | some m => c.messageName t m ++ "_" ++ Naming.toUppercase v.name
  | none => Naming.toUppercase v.name

/-- The name of a request or response type. -/
def payloadTypeName (t : SymbolTable) (id : String) : String :=
  if id.isEmpty then ""
  else
    match t.message? id with
    | some m => Naming.toPascalCase m.name
    | none => ""

/-! ## Types -/

/-- The type of a scalar kind. -/
def scalarType? : TypeKind → Option String
  | .double => some "float64"
  | .float => some "float32"
  | .int64 | .sint64 | .sfixed64 => some "int64"
  | .uint64 | .fixed64 => some "uint64"
  | .int32 | .sint32 | .sfixed32 => some "int32"
  | .uint32 | .fixed32 => some "uint32"
  | .bool => some "bool"
  | .string => some "string"
  | .bytes => some "[]byte"
  | .message | .enum | .group | .undefined => none

/-- Puts the slice brackets before the spelling of a repeated field, unless it is empty. -/
def sliceOf (f : Field) (element : String) : String :=
  if f.repeated && !element.isEmpty then "[]" ++ element else element

/-- The type of a field, with at most the given number of map entries one inside the other. -/
def fieldTypeWithin (c : GoCodec) (t : SymbolTable) (steps : Nat) (f : Field) : String :=
  sliceOf f <|
    match scalarType? f.kind with
    | some scalar => scalar
    | none =>
        let typeId := f.typeId.getD ""
        match f.kind with
        | .message =>
            match t.message? typeId with
            | none => ""
            | some m =>
                match m.mapFields?, steps with
                | some (key, value), steps + 1 =>
                    "map[" ++ c.fieldTypeWithin t steps key ++ "]" ++
                      c.fieldTypeWithin t steps value
                | some _, 0 => ""
                | none, _ => if m.isMap then "" else "*" ++ c.messageName t m
        | .enum =>
            match t.enum? typeId with
            | some e => c.enumName t e
            | none => ""
        | _ => ""

/-- The type of a field: scalars by name, messages by pointer, map entries as maps, and all of them
as slices when repeated. -/
def fieldType (c : GoCodec) (t : SymbolTable) (f : Field) : String :=
  c.fieldTypeWithin t t.messages.size f

/-! ## Requests -/

/-- The expression that prints a request field as a query parameter. -/
def queryExpression (f : Field) : String :=
  "fmt.Sprint(req." ++ toPascal f.name ++ ")"

/-- What selects the body from the request: a field, unless the whole request is sent. -/
def bodySelector (m : Method) : String :=
  match m.binding.body with
  | none => ""
  | some field => if m.binding.bodyIsRequest then "" else "." ++ Naming.toPascalCase field

/-- One segment of the format of a request path. -/
def segmentFormat : PathSegment → String
  | .literal text => "/" ++ text
  | .variable _ => "/%s"
  | .verb text => ":" ++ text

/-- The format of a request path, in the language of `fmt.Sprintf`. -/
def pathFormat (b : HttpBinding) : String :=
  String.join (b.template.map segmentFormat)

/-- The accessor of a field that may lie inside other fields. -/
def accessor (path : String) : String :=
  String.ofList
    (['.'].intercalate ((path.toList.splitOn '.').map Naming.pascal))

/-- What fills the place of a segment, if it has one. -/
def segmentArgument? : PathSegment → Option String
  | .variable path => some (", req." ++ accessor path)
  | _ => none

/-- What fills the places of a request path. -/
def pathArguments (b : HttpBinding) : List String :=
  b.template.filterMap segmentArgument?

/-! ## Packages -/

/-- The stand-ins for the well known time types. -/
def wellKnownTypes : List Message :=
  [{ id := ".google.protobuf.Timestamp", name := "Time", package := timePackage },
    { id := ".google.protobuf.Duration", name := "Duration", package := timePackage }]

/-- Puts a stand-in into the symbol table, unless the message is selected for generation. -/
def standIn (api : Api) (m : Message) : Api :=
  if m.id ∈ api.messages then api else { api with symbols := api.symbols.addMessage m }

/-- Puts all stand-ins into the symbol table. -/
def withWellKnownTypes (api : Api) : Api :=
  wellKnownTypes.foldl standIn api

/-- Has the message a field that refers to a message of the time package? -/
def refersToTime (t : SymbolTable) (m : Message) : Bool :=
  m.fields.any fun f =>
    f.kind.isReference &&
      match f.typeId.bind t.message? with
      | some target => target.package = timePackage
      | none => false

/-- Does the message, or one nested in it at most the given number of levels deep, refer to the time
package? -/
def usesTimeWithin (t : SymbolTable) : Nat → Message → Bool
  | 0, m => refersToTime t m
  | levels + 1, m =>
      refersToTime t m || (m.messages.filterMap t.message?).any (usesTimeWithin t levels)

/-- Does a selected message, or one nested in it, refer to the time package? -/
def usesTime (api : Api) : Bool :=
  api.selectedMessages.any (usesTimeWithin api.symbols api.symbols.messages.size)

/-- The quoted paths of the imports, in ascending order. -/
def imports (c : GoCodec) (api : Api) : List String :=
  let mapped := c.importMap.values.map (·.path)
  let paths := NameSet.ofNames (if usesTime api then timePackage :: mapped else mapped)
  paths.toNames.map Text.quoted

/-- The package and the identifier of every selected element: services, messages, enums. -/
def selectedElements (api : Api) : List (String × String) :=
  api.selectedServices.map (fun s => (s.package, s.id)) ++
    (api.selectedMessages.map (fun m => (m.package, m.id)) ++
      api.selectedEnums.map fun e => (e.package, e.id))

/-- All selected elements must be in the package of the first one. -/
def validate (api : Api) : Except GeneratorError Unit :=
  match selectedElements api with
  | [] => .ok ()
  | (want, _) :: rest =>
      match rest.find? (·.1 ≠ want) with
      | some (got, id) => .error (.mixedPackages want got id)
      | none => .ok ()

/-! ## Comments -/

/-- One line of a documentation comment. -/
def commentLine (line : List Char) : String :=
  let text := Text.trimEnd line
  if text.isEmpty then "//" else "// " ++ String.ofList text

/-- A documentation comment, one line for each line of the text. -/
def commentLines (text : String) : List String :=
  (text.toList.splitOn '\n').map commentLine

/-! ## The codec -/

/-- The codec of some settings. -/
def toCodec (c : GoCodec) : Codec where
  language := language
  templateDir := language
  withWellKnownTypes := withWellKnownTypes
  fieldAttributes _ _ := []
  fieldType := c.fieldType
  queryExpression _ f := queryExpression f
  payloadTypeName := payloadTypeName
  messageName := c.messageName
  qualifiedMessageName := c.messageName
  enumName := c.enumName
  qualifiedEnumName := c.enumName
  enumValueName := c.enumValueName
  qualifiedEnumValueName := c.enumValueName
  oneOfType _ _ := .error (.unsupported language "one_of_type")
  bodySelector _ m := bodySelector m
  pathFormat _ b := pathFormat b
  pathArguments _ b := pathArguments b
  queryFields t m := m.queryFields t
  toSnake := toSnake
  toPascal := toPascal
  toCamel := toCamel
  commentLines := commentLines
  manifestLines := []
  packageName api := c.packageNameOverride.getD api.name
  validate := validate
  copyrightYear := c.year
  imports := c.imports
  templateExtras := .object [("go_package", .string c.goPackageName)]

end GoCodec

end ClientGen
