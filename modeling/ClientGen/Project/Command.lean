import ClientGen.Codec.Choice
import ClientGen.Project.Configuration
import ClientGen.Project.Generation
import ClientGen.Project.Specification

/-!
# The commands `generate` and `refresh`

A run reads the specification, lets the codec check the API, generates the library, and saves the
configuration last, so that a saved configuration is always one that a library was generated with.
-/

namespace ClientGen

/-- Why a command fails. -/
inductive CommandError where
  /-- The configuration cannot be used. -/
  | configuration (error : ConfigError)
  /-- There is nothing to refresh in a directory. -/
  | notGenerated (output : String)
  /-- The command cannot be run in a directory. -/
  | noDirectory (path : String)
  /-- The specification format is not known. -/
  | format (cause : GeneratorError)
  /-- There is no such codec, or it cannot be built. -/
  | codec (cause : GeneratorError)
  /-- The specification cannot be read. -/
  | specification (source : String) (cause : GeneratorError)
  /-- The codec refuses the API. -/
  | rejected (cause : GeneratorError)
  /-- The library cannot be generated. -/
  | generation (cause : GeneratorError)
deriving DecidableEq, Repr

namespace CommandError

/-- The error in words, without its cause. -/
def message : CommandError → String
  | .configuration error => error.message
  | .notGenerated output => "No " ++ Config.fileName ++ " in " ++ output ++ ", run generate first"
  | .noDirectory path => "Failed to change directory to " ++ path
  | .format cause => cause.message
  | .codec _ => "Failed to create codec"
  | .specification source _ => "Failed to parse " ++ source
  | .rejected _ => "API rejected by codec"
  | .generation _ => "Failed to generate code"

/-- The error of the generator behind it, if there is one. -/
def cause? : CommandError → Option GeneratorError
  | .format cause | .codec cause | .specification _ cause | .rejected cause
  | .generation cause => some cause
  | _ => none

end CommandError

/-- The flags of `generate`. -/
structure GenerateFlags where
  general : GeneralSettings := {}
  /-- The directory to generate into. -/
  output : String
  sourceOptions : List (String × String) := []
  codecOptions : List (String × String) := []
deriving DecidableEq, Repr

/-- The flags as a layer of settings; of options with the same name the last one counts. -/
def GenerateFlags.toConfig (f : GenerateFlags) : Config where
  general := f.general
  source := Table.ofList f.sourceOptions
  codec := Table.ofList f.codecOptions

namespace Config

/-- Generates a library with a configuration. -/
def generate (c : Config) (output : String) : Action CommandError Unit := do
  let settings ← Action.ofExcept (c.resolve.mapError .configuration)
  let format ← Action.ofExcept
    ((SpecificationFormat.ofName settings.specificationFormat).mapError .format)
  let codec ← Action.ofExcept
    ((Codec.ofLanguage (← get).currentYear settings.language settings.codec).mapError .codec)
  let api ← (format.read
    { source := settings.specificationSource
      serviceConfig := settings.serviceConfig
      options := settings.source }).mapError (.specification settings.specificationSource)
  let api := codec.withWellKnownTypes api
  Action.ofExcept ((codec.validate api).mapError .rejected)
  (Generation.run
    { api, codec, outputDir := output, templateDir := settings.templateDir }).mapError .generation
  (c.save output).mapError .configuration

end Config

/-- The path of the directory in which the file of the project is looked for. -/
def projectDir : String := "."

/-- The command `generate`: the flags lie over the file of the project. -/
def GenerateFlags.run (f : GenerateFlags) : Action CommandError Unit := do
  let project ← (Config.load projectDir).mapError .configuration
  (project.merge f.toConfig).generate f.output

/-- The command `refresh`: the saved configuration lies over the file of the project. -/
def refresh (output : String) : Action CommandError Unit := do
  let w ← get
  if !w.tree.pathExists w.directory (Config.pathIn output) then throw (.notGenerated output)
  let project ← (Config.load projectDir).mapError .configuration
  let saved ← (Config.load output).mapError .configuration
  (project.merge saved).generate output

end ClientGen
