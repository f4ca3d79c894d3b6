import ClientGen.Project.Compilation
import ClientGen.Schema.Build
import ClientGen.Schema.ServiceConfigDocument

/-!
# Specification formats

A specification format says how the API of a specification is found, and which options that takes.
There is one: protobuf.
-/

namespace ClientGen

/-- What to read the API from. -/
structure Specification where
  /-- A file, or a directory to search. -/
  source : String
  /-- The path of the service config. -/
  serviceConfig : Option String := none
  /-- Options of the format. -/
  options : Table String String := ∅

/-- A kind of specification. -/
structure SpecificationFormat where
  name : String
  help : String
  /-- The options that the format knows, with what they are for. -/
  optionHelp : Table String String
  /-- Reads the API of a specification. -/
  read : Specification → Action GeneratorError Api

/-- Reads a service config from a file. -/
def readServiceConfig (path : String) : Action GeneratorError ServiceConfig := do
  let text ← Action.look fun tree directory => tree.readText directory path
  Action.ofExcept (ServiceConfig.ofText text path)

namespace SpecificationFormat

/-- Reads the API of protobuf files, the service config first. -/
def readProtobuf (s : Specification) : Action GeneratorError Api := do
  let config ← s.serviceConfig.mapM readServiceConfig
  let compiled ← compileSource s.source s.options
  return Api.ofCompiled config compiled

/-- Protobuf files. -/
def protobuf : SpecificationFormat where
  name := "protobuf"
  help := "Parse multiple protobuf files into an API specification."
  optionHelp := Table.ofList
    [("googleapis-root",
        "The root directory for the googleapis common specifications. Ignored if empty."),
      ("input-root", "The root directory for the proto specifications. Ignored if empty.")]
  read := readProtobuf

/-- The specification format of a name. -/
def ofName (name : String) : Except GeneratorError SpecificationFormat :=
  if name = protobuf.name then .ok protobuf else .error (.unknownSpecificationFormat name)

end SpecificationFormat

end ClientGen
