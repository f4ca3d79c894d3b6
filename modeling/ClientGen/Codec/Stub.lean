import ClientGen.Api.Identifier
import ClientGen.Codec.Language
import ClientGen.Codec.QueryParameters
import ClientGen.Naming
import ClientGen.Text.Lines

/-!
# A minimal codec

Spells everything much as it is named in the schema.  It serves to exercise the engine without the
rules of a real language; whether it has types for groups, and the data it adds to the rendering
context, are up to the caller.
-/

namespace ClientGen

/-- The settings of the minimal codec. -/
structure StubCodec where
  /-- More data for the templates. -/
  additional : Value := .null
  /-- Is there a type for a group of fields? -/
  supportsOneOf : Bool := false

namespace StubCodec

/-- The name of the language. -/
def language : String := "stub"

/-- The type of a field: the name of the message it refers to, or the name of its kind. -/
def fieldType (t : SymbolTable) (f : Field) : String :=
  match f.typeId.bind t.message? with
  | some m => m.name
  | none => f.kind.name

/-- What selects the body from the request. -/
def bodySelector (m : Method) : String :=
  match m.binding.body with
  | none => ""
  | some field => if field = wholeRequest then "" else "." ++ field

/-- One segment of the format of a request path. -/
def segmentFormat : PathSegment → String
  | .literal text => "/" ++ text
  | .variable _ => "/\x7b\x7d"
  | .verb text => ":" ++ text

/-- What fills the place of a segment, if it has one. -/
def segmentArgument? : PathSegment → Option String
  | .variable path => some ("req." ++ path)
  | _ => none

/-- The codec of some settings. -/
def toCodec (c : StubCodec) : Codec where
  language := language
  templateDir := language
  withWellKnownTypes := id
  fieldAttributes _ f := ["#[json(" ++ f.jsonName ++ ")]"]
  fieldType := fieldType
  queryExpression _ f := "req." ++ f.name
  payloadTypeName t id := ((t.message? id).map (·.name)).getD ""
  messageName _ m := m.name
  qualifiedMessageName _ m := Identifier.withoutRoot m.id
  enumName _ e := e.name
  qualifiedEnumName _ e := Identifier.withoutRoot e.id
  enumValueName _ v := v.name
  qualifiedEnumValueName _ v := Identifier.withoutRoot v.parent ++ "." ++ v.name
  oneOfType _ group :=
    if c.supportsOneOf then .ok (Naming.toPascalCase group.name)
    else .error (.unsupported language "one_of_type")
  bodySelector _ m := bodySelector m
  pathFormat _ b := String.join (b.template.map segmentFormat)
  pathArguments _ b := b.template.filterMap segmentArgument?
  queryFields t m := m.queryFields t
  toSnake := Naming.toSnakeCase
  toPascal := Naming.toPascalCase
  toCamel := Naming.toCamelCase
  commentLines text :=
    (Text.lines text.toList).map fun line => "# " ++ String.ofList line
  manifestLines := ["stub-runtime"]
  packageName api := "stub-" ++ api.name
  validate _ := .ok ()
  copyrightYear := "2024"
  imports _ := []
  templateExtras := c.additional

end StubCodec

end ClientGen
