import ClientGen.Api.SymbolTable
import ClientGen.Schema.Descriptor
import ClientGen.Schema.PathTemplate

/-!
# HTTP bindings

The HTTP rule of a method says where each field of the request travels: in the path, in the body, or
else in the query.
-/

namespace ClientGen

/-- The HTTP method and the path template of a pattern. -/
def HttpPattern.parts : HttpPattern → String × String
  | .get path => ("GET", path)
  | .put path => ("PUT", path)
  | .post path => ("POST", path)
  | .delete path => ("DELETE", path)
  | .patch path => ("PATCH", path)
  | .custom kind path => (kind, path)

/-- The request field that a segment needs, which may lead into others. -/
def PathSegment.field? : PathSegment → Option String
  | .variable path => some (String.ofList (path.toList.takeWhile (· ≠ '.')))
  | _ => none

/-- The request fields that travel in the query: all that neither the path nor the body takes.  If
the whole request is the body, or the request message is unknown, there are none. -/
def queryParameters (template : List PathSegment) (body : Option String) (input : Option Message) :
    NameSet :=
  match input with
  | none => ∅
  | some input =>
      if body = some wholeRequest then ∅
      else
        let inPath := template.filterMap PathSegment.field?
        NameSet.ofNames
          ((input.fields.map (·.name)).filter fun name => name ∉ inPath ∧ body ≠ some name)

/-- The binding of a method, unless it has none or its path template is malformed. -/
def MethodDescriptor.binding? (m : MethodDescriptor) (t : SymbolTable) : Option HttpBinding :=
  match m.options.bind (·.http) with
  | none => none
  | some rule =>
      match rule.pattern with
      | none => none
      | some pattern =>
          match PathTemplate.parse pattern.parts.2 with
          | none => none
          | some template =>
              let body := if rule.body.isEmpty then none else some rule.body
              some
                { verb := pattern.parts.1
                  template
                  queryParameters := queryParameters template body (t.message? (textOf m.inputType))
                  body }

/-- The name of the host that serves a service. -/
def defaultHost (options : Option ServiceOptions) : String :=
  String.ofList ((textOf (options.bind (·.defaultHost))).toList.takeWhile (· ≠ ':'))

end ClientGen
