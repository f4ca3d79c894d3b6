import ClientGen.Error
import ClientGen.Text.Lines

/-!
# Service configs

A service config describes the API as a whole.  Only its name, its title and the summary of its
documentation matter here.  A document without a name is some other kind of document.
-/

namespace ClientGen

/-- What a service config says about an API. -/
structure ServiceConfig where
  /-- The name of the service, usually a host name. -/
  name : String := ""
  title : String := ""
  summary : String := ""
deriving DecidableEq, Repr, Inhabited

namespace ServiceConfig

/-- What host names of services end with. -/
def hostSuffix : String := ".googleapis.com"

/-- The short name of the API: that of the service without the common end of host names. -/
def apiName (c : ServiceConfig) : String :=
  match Text.dropEnd? hostSuffix.toList c.name.toList with
  | some short => String.ofList short
  | none => c.name

end ServiceConfig

end ClientGen
