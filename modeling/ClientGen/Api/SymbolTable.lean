import ClientGen.Api.Element

/-!
# The symbol table

The only owner of messages, enums and services: three tables keyed by identifier.  Any reference
between elements is a look-up here.
-/

namespace ClientGen

/-- All elements, by identifier. -/
structure SymbolTable where
  messages : Table String Message := ∅
  enums : Table String Enum := ∅
  services : Table String Service := ∅
deriving DecidableEq, Inhabited

namespace SymbolTable

/-- Adds a message under its own identifier, over the one that was there. -/
def addMessage (t : SymbolTable) (m : Message) : SymbolTable :=
  { t with messages := t.messages.insert m.id m }

/-- Adds an enum under its own identifier, over the one that was there. -/
def addEnum (t : SymbolTable) (e : Enum) : SymbolTable :=
  { t with enums := t.enums.insert e.id e }

/-- Adds a service under its own identifier, over the one that was there. -/
def addService (t : SymbolTable) (s : Service) : SymbolTable :=
  { t with services := t.services.insert s.id s }

/-- The message of an identifier. -/
def message? (t : SymbolTable) (id : String) : Option Message :=
  t.messages.get? id

/-- The enum of an identifier. -/
def enum? (t : SymbolTable) (id : String) : Option Enum :=
  t.enums.get? id

/-- The service of an identifier. -/
def service? (t : SymbolTable) (id : String) : Option Service :=
  t.services.get? id

/-- Changes the message of an identifier, if there is one. -/
def modifyMessage (t : SymbolTable) (id : String) (f : Message → Message) : SymbolTable :=
  { t with messages := t.messages.modify id f }

/-- Changes the enum of an identifier, if there is one. -/
def modifyEnum (t : SymbolTable) (id : String) (f : Enum → Enum) : SymbolTable :=
  { t with enums := t.enums.modify id f }

/-- Changes the service of an identifier, if there is one. -/
def modifyService (t : SymbolTable) (id : String) (f : Service → Service) : SymbolTable :=
  { t with services := t.services.modify id f }

/-- The number of elements of all three sorts. -/
def size (t : SymbolTable) : Nat :=
  t.messages.size + t.enums.size + t.services.size

/-- Is there no element at all? -/
def isEmpty (t : SymbolTable) : Bool :=
  t.size = 0

end SymbolTable

end ClientGen
