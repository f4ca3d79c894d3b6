import ClientGen.Template.View

/-!
# Rendering contexts

The names that a template can use at its top level: those of the view of the API, and those that the
codec adds.
-/

namespace ClientGen

/-! ## Views as values -/

/-- An object of some members, which may be listed in any order. -/
def Value.ofMembers (members : List (String × Value)) : Value :=
  .object (Table.ofList members).entries

/-- An array of texts. -/
def Value.ofTexts (texts : List String) : Value :=
  .array (texts.map .string)

/-- The value of a field. -/
def FieldView.toValue (f : FieldView) : Value :=
  .ofMembers
    [("name", .string f.name),
      ("name_to_snake", .string f.nameToSnake),
      ("name_to_camel", .string f.nameToCamel),
      ("name_to_pascal", .string f.nameToPascal),
      ("json_name", .string f.jsonName),
      ("doc_lines", .ofTexts f.docLines),
      ("field_type", .string f.fieldType),
      ("attributes", .ofTexts f.attributes),
      ("as_query_parameter", .string f.queryExpression),
      ("optional", .bool f.optional),
      ("repeated", .bool f.repeated),
      ("is_one_of", .bool f.isOneOf)]

/-- The value of a group of fields. -/
def OneOfView.toValue (o : OneOfView) : Value :=
  .ofMembers
    [("name", .string o.name),
      ("name_to_snake", .string o.nameToSnake),
      ("name_to_pascal", .string o.nameToPascal),
      ("doc_lines", .ofTexts o.docLines),
      ("one_of_type", (o.oneOfType.map .string).getD .null),
      ("fields", .array (o.fields.map (·.toValue)))]

/-- The value of an enum value. -/
def EnumValueView.toValue (v : EnumValueView) : Value :=
  .ofMembers
    [("name", .string v.name),
      ("qualified_name", .string v.qualifiedName),
      ("number", .int v.number),
      ("doc_lines", .ofTexts v.docLines)]

/-- The value of an enum. -/
def EnumView.toValue (e : EnumView) : Value :=
  .ofMembers
    [("name", .string e.name),
      ("qualified_name", .string e.qualifiedName),
      ("doc_lines", .ofTexts e.docLines),
      ("values", .array (e.values.map (·.toValue)))]

mutual

/-- The value of a message. -/
def MessageView.toValue : MessageView → Value
  | ⟨id, name, qualifiedName, docLines, fields, basicFields, oneOfs, messages, enums⟩ =>
      .ofMembers
        [("id", .string id),
          ("name", .string name),
          ("qualified_name", .string qualifiedName),
          ("doc_lines", .ofTexts docLines),
          ("fields", .array (fields.map (·.toValue))),
          ("basic_fields", .array (basicFields.map (·.toValue))),
          ("one_ofs", .array (oneOfs.map (·.toValue))),
          ("messages", .array (MessageView.toValues messages)),
          ("enums", .array (enums.map (·.toValue))),
          ("has_nested_types",
            .bool (MessageView.hasNestedTypes ⟨id, name, qualifiedName, docLines, fields, basicFields,
              oneOfs, messages, enums⟩))]

/-- The values of messages. -/
def MessageView.toValues : List MessageView → List Value
  | [] => []
  | m :: ms => m.toValue :: MessageView.toValues ms

end

/-- The value of a method. -/
def MethodView.toValue (m : MethodView) : Value :=
  .ofMembers
    [("name", .string m.name),
      ("name_to_snake", .string m.nameToSnake),
      ("name_to_camel", .string m.nameToCamel),
      ("name_to_pascal", .string m.nameToPascal),
      ("doc_lines", .ofTexts m.docLines),
      ("input_type_name", .string m.inputTypeName),
      ("output_type_name", .string m.outputTypeName),
      ("http_method", .string m.httpMethod),
      ("body_accessor", .string m.bodySelector),
      ("has_body", .bool m.hasBody),
      ("path_fmt", .string m.pathFormat),
      ("path_args", .ofTexts m.pathArguments),
      ("query_params", .array (m.queryFields.map (·.toValue)))]

/-- The value of a service. -/
def ServiceView.toValue (s : ServiceView) : Value :=
  .ofMembers
    [("id", .string s.id),
      ("name", .string s.name),
      ("name_to_snake", .string s.nameToSnake),
      ("name_to_pascal", .string s.nameToPascal),
      ("default_host", .string s.defaultHost),
      ("doc_lines", .ofTexts s.docLines),
      ("methods", .array (s.methods.map (·.toValue)))]

/-! ## The context -/

/-- The values that the top level names of a template stand for. -/
abbrev Context := Table String Value

/-- The names and values of a view. -/
def ApiView.toContext (d : ApiView) : Context :=
  Table.ofList
    [("name", .string d.name),
      ("title", .string d.title),
      ("description", .string d.description),
      ("package_name", .string d.packageName),
      ("required_packages", .ofTexts d.manifestLines),
      ("imports", .ofTexts d.imports),
      ("copyright_year", .string d.copyrightYear),
      ("has_services", .bool (!d.services.isEmpty)),
      ("services", .array (d.services.map (·.toValue))),
      ("messages", .array (d.messages.map (·.toValue))),
      ("enums", .array (d.enums.map (·.toValue)))]

/-- A context with more data: the members of an object, any other value but `null` under one
name. -/
def Context.add (context : Context) : Value → Context
  | .null => context
  | .object members => context.insertAll members
  | value => context.insert "additional" value

/-- The context for the templates of a codec. -/
def Codec.contextOf (c : Codec) (api : Api) : Except GeneratorError Context := do
  let data ← c.apiView api
  return (Context.add data.toContext c.templateExtras)

end ClientGen
