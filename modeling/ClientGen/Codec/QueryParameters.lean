import ClientGen.Api.SymbolTable

/-!
# The fields of a request that travel in the query

The binding of a method names them; the request message has the fields themselves.
-/

namespace ClientGen

/-- The fields of the request message that the binding sends in the query, in declaration order;
none if the request message is unknown. -/
def Method.queryFields (m : Method) (t : SymbolTable) : List Field :=
  match t.message? m.inputId with
  | some input => input.fields.filter fun f => m.binding.queryParameters.contains f.name
  | none => []

end ClientGen
