import ClientGen.Api.Identifier
import ClientGen.Api.SymbolTable

/-!
# APIs

An API is a symbol table with the elements selected for generation.  `Api.ofElements` builds one
from plain lists of elements and derives the links between parents and children from the
identifiers: an element whose `parentName` is one of the messages belongs to that message, every
other one is selected.
-/

namespace ClientGen

/-- What is handed to a codec and to the templates. -/
structure Api where
  /-- The short name. -/
  name : String := ""
  /-- The title for readers. -/
  title : String := ""
  /-- The summary of the service. -/
  description : String := ""
  /-- The messages to generate, in declaration order. -/
  messages : List String := []
  /-- The enums to generate, in declaration order. -/
  enums : List String := []
  /-- The services to generate, in declaration order. -/
  services : List String := []
  symbols : SymbolTable := {}
deriving DecidableEq, Inhabited

namespace Api

/-- The selected messages that the symbol table knows. -/
def selectedMessages (api : Api) : List Message :=
  api.messages.filterMap api.symbols.message?

/-- The selected enums that the symbol table knows. -/
def selectedEnums (api : Api) : List Enum :=
  api.enums.filterMap api.symbols.enum?

/-- The selected services that the symbol table knows. -/
def selectedServices (api : Api) : List Service :=
  api.services.filterMap api.symbols.service?

/-! ## Building from elements -/

/-- Appends an identifier unless the list has it. -/
def appendOnce (ids : List String) (id : String) : List String :=
  if id ∈ ids then ids else ids ++ [id]

/-- Hangs a message below the message that its identifier names, or selects it. -/
def placeMessage (api : Api) (id : String) : Api :=
  let parent := Identifier.parentName id
  match api.symbols.message? parent with
  | some _ =>
      { api with
        symbols :=
          (api.symbols.modifyMessage parent fun p => { p with messages := appendOnce p.messages id }
            ).modifyMessage id fun m => { m with parent := some parent } }
  | none => { api with messages := api.messages ++ [id] }

/-- Hangs an enum below the message that its identifier names, or selects it. -/
def placeEnum (api : Api) (id : String) : Api :=
  let parent := Identifier.parentName id
  match api.symbols.message? parent with
  | some _ =>
      { api with
        symbols :=
          (api.symbols.modifyMessage parent fun p => { p with enums := appendOnce p.enums id }
            ).modifyEnum id fun e => { e with parent := some parent } }
  | none => { api with enums := api.enums ++ [id] }

/-- The symbol table of plain lists of elements. -/
def symbolsOf (messages : List Message) (enums : List Enum) (services : List Service) :
    SymbolTable :=
  services.foldl SymbolTable.addService
    (enums.foldl SymbolTable.addEnum (messages.foldl SymbolTable.addMessage {}))

/-- The API of plain lists of elements.  All services are selected. -/
def ofElements (messages : List Message) (enums : List Enum) (services : List Service) : Api :=
  let start : Api :=
    { services := services.map (·.id), symbols := symbolsOf messages enums services }
  (enums.map (·.id)).foldl placeEnum ((messages.map (·.id)).foldl placeMessage start)

end Api

end ClientGen
