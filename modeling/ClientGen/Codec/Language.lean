import ClientGen.Api.Assembly
import ClientGen.Error
import ClientGen.Value

/-!
# Language codecs

A codec spells the elements of an API in one target language: names, types, request paths and
comments.  It is a record of functions, so that everything said about generation can be said for
any codec.  A look-up that misses the symbol table gives an empty spelling; it never stops
generation.
-/

namespace ClientGen

/-- How one language spells an API. -/
structure Codec where
  /-- The name of the language, also that of its directory of templates. -/
  language : String
  /-- The directory of the language's templates below the template root. -/
  templateDir : String
  /-- Adds stand-ins for the well known types; selected elements stay as they are. -/
  withWellKnownTypes : Api → Api
  /-- What stands before the definition of a field. -/
  fieldAttributes : SymbolTable → Field → List String
  /-- The type of a field. -/
  fieldType : SymbolTable → Field → String
  /-- The expression that turns a field into a query parameter. -/
  queryExpression : SymbolTable → Field → String
  /-- The name of a message as the input or output of a method. -/
  payloadTypeName : SymbolTable → String → String
  /-- The name of a message in its definition. -/
  messageName : SymbolTable → Message → String
  /-- The name of a message as seen from elsewhere. -/
  qualifiedMessageName : SymbolTable → Message → String
  /-- The name of an enum in its definition. -/
  enumName : SymbolTable → Enum → String
  /-- The name of an enum as seen from elsewhere. -/
  qualifiedEnumName : SymbolTable → Enum → String
  /-- The constant of an enum value in its definition. -/
  enumValueName : SymbolTable → EnumValue → String
  /-- The constant of an enum value as seen from elsewhere. -/
  qualifiedEnumValueName : SymbolTable → EnumValue → String
  /-- The type of a group, unless the language has plain fields for it. -/
  oneOfType : SymbolTable → OneOf → Except GeneratorError String
  /-- What selects the body from the request. -/
  bodySelector : SymbolTable → Method → String
  /-- The format of the request path, with a place for each of `pathArguments`. -/
  pathFormat : SymbolTable → HttpBinding → String
  /-- What fills the places of the request path. -/
  pathArguments : SymbolTable → HttpBinding → List String
  /-- The request fields sent in the query, in declaration order. -/
  queryFields : SymbolTable → Method → List Field
  toSnake : String → String
  toPascal : String → String
  toCamel : String → String
  /-- The lines of a documentation comment. -/
  commentLines : String → List String
  /-- Lines for the package manifest. -/
  manifestLines : List String
  /-- The name of the package. -/
  packageName : Api → String
  /-- Refuses an API that the language cannot express. -/
  validate : Api → Except GeneratorError Unit
  /-- The year in copyright headers. -/
  copyrightYear : String
  /-- The imports that the generated code needs. -/
  imports : Api → List String
  /-- More data for the templates: an object adds its members, anything else but `null` is one
  value. -/
  templateExtras : Value

end ClientGen
