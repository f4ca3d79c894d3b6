import ClientGen.Api.Assembly
import ClientGen.Schema.Binding
import ClientGen.Schema.Documentation
import ClientGen.Schema.Registration
import ClientGen.Schema.Compiled
import ClientGen.Schema.ServiceConfig

/-!
# From descriptors to an API

All files are registered first, so that every reference can be looked up.  Then each file to
generate from selects its top level messages and enums, adds its services and attaches its comments.
-/

namespace ClientGen

/-- The method of a descriptor, unless it has no usable binding. -/
def MethodDescriptor.toMethod? (m : MethodDescriptor) (t : SymbolTable) : Option Method :=
  (m.binding? t).map fun binding =>
    { name := textOf m.name
      inputId := textOf m.inputType
      outputId := textOf m.outputType
      binding }

/-- The service of a descriptor in a package. -/
def ServiceDescriptor.toService (s : ServiceDescriptor) (t : SymbolTable) (package : String) :
    Service where
  id := Identifier.child (Identifier.ofPackage package) (textOf s.name)
  name := textOf s.name
  package
  defaultHost := defaultHost s.options
  methods := s.methods.filterMap (·.toMethod? t)

namespace Api

/-- Selects the messages that the symbol table has. -/
def selectMessages (api : Api) (ids : List String) : Api :=
  { api with messages := api.messages ++ ids.filter fun id => (api.symbols.message? id).isSome }

/-- Selects the enums that the symbol table has. -/
def selectEnums (api : Api) (ids : List String) : Api :=
  { api with enums := api.enums ++ ids.filter fun id => (api.symbols.enum? id).isSome }

/-- Adds a service and selects it. -/
def selectService (package : String) (api : Api) (s : ServiceDescriptor) : Api :=
  let service := s.toService api.symbols package
  { api with
    services := api.services ++ [service.id]
    symbols := api.symbols.addService service }

/-- Takes in a file to generate from, whose messages and enums are registered. -/
def selectFile (api : Api) (file : FileDescriptor) : Api :=
  let package := textOf file.package
  let scope := Identifier.ofPackage package
  let api := api.selectMessages (file.messageTypes.map fun m =>
    Identifier.child scope (textOf m.name))
  let api := api.selectEnums (file.enumTypes.map fun e => Identifier.child scope (textOf e.name))
  let api := file.services.foldl (selectService package) api
  { api with symbols := api.symbols.documentFile file }

/-- An API without elements that is named by a service config. -/
def named (config : Option ServiceConfig) : Api :=
  match config with
  | some c => { name := c.apiName, title := c.title, description := c.summary }
  | none => {}

/-- The API of compiled files. -/
def ofCompiled (config : Option ServiceConfig) (compiled : CompiledFiles) : Api :=
  compiled.targets.foldl selectFile
    { named config with symbols := compiled.files.foldl SymbolTable.registerFile {} }

end Api

end ClientGen
