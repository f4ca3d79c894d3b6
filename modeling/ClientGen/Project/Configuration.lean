import ClientGen.Project.World
import ClientGen.Table
import ClientGen.Toml.Document

/-!
# Project configurations

The settings of a project are layers: flags lie over the file of the project, which lies over the
built in defaults.  The layers that a library was generated with are saved next to it as a TOML
document, so that it can be generated again.
-/

namespace ClientGen

/-- The settings of a layer that concern the whole run. -/
structure GeneralSettings where
  specificationFormat : Option String := none
  specificationSource : Option String := none
  serviceConfig : Option String := none
  language : Option String := none
  templateDir : Option String := none
deriving DecidableEq, Repr, Inhabited

/-- A layer of settings. -/
structure Config where
  general : GeneralSettings := {}
  /-- Options of the specification format. -/
  source : Table String String := ∅
  /-- Options of the codec. -/
  codec : Table String String := ∅
deriving DecidableEq, Inhabited

/-- Settings from which a library can be generated. -/
structure Settings where
  specificationFormat : String
  specificationSource : String
  serviceConfig : Option String
  language : String
  templateDir : String
  source : Table String String
  codec : Table String String

/-! ## Errors -/

/-- Why a configuration cannot be used. -/
inductive ConfigError where
  | missingSource
  | missingLanguage
  /-- A text is not a document of the expected shape. -/
  | malformed
  /-- A file is not a document of the expected shape. -/
  | malformedFile (path : String)
  | unreadable (path : String)
  | noDirectory (path : String)
  | unwritable (path : String)
deriving DecidableEq, Repr

/-- The error in words. -/
def ConfigError.message : ConfigError → String
  | .missingSource => "Missing specification source, use --specification-source"
  | .missingLanguage => "Missing language, use --language"
  | .malformed => "Failed to parse configuration"
  | .malformedFile path => "Invalid configuration: " ++ path
  | .unreadable path => "Failed to read configuration: " ++ path
  | .noDirectory path => "Failed to create directory: " ++ path
  | .unwritable path => "Failed to write configuration: " ++ path

/-! ## Layers -/

/-- Lays settings over others: what both have is decided by the upper ones. -/
def GeneralSettings.merge (lower upper : GeneralSettings) : GeneralSettings where
  specificationFormat := upper.specificationFormat.or lower.specificationFormat
  specificationSource := upper.specificationSource.or lower.specificationSource
  serviceConfig := upper.serviceConfig.or lower.serviceConfig
  language := upper.language.or lower.language
  templateDir := upper.templateDir.or lower.templateDir

namespace Config

/-- Lays a layer over another one, option by option. -/
def merge (lower upper : Config) : Config where
  general := lower.general.merge upper.general
  source := lower.source.overlay upper.source
  codec := lower.codec.overlay upper.codec

/-- The specification format of a layer that names none. -/
def defaultSpecificationFormat : String := "protobuf"

/-- The template directory of a layer that names none. -/
def defaultTemplateDir : String := "templates"

/-- A text that is there and not empty. -/
def filled? (text : Option String) : Option String :=
  text.filter fun s => !s.isEmpty

/-- The settings of a layer.  A source and a language must be named, all else has a default. -/
def resolve (c : Config) : Except ConfigError Settings :=
  match filled? c.general.specificationSource, filled? c.general.language with
  | none, _ => .error .missingSource
  | some _, none => .error .missingLanguage
  | some specificationSource, some language =>
      .ok
        { specificationFormat :=
            c.general.specificationFormat.getD defaultSpecificationFormat
          specificationSource
          serviceConfig := filled? c.general.serviceConfig
          language
          templateDir := c.general.templateDir.getD defaultTemplateDir
          source := c.source
          codec := c.codec }

end Config

/-! ## Documents -/

namespace GeneralSettings

/-- The names of the settings, in the order of their positions. -/
def names : List String :=
  ["specification-format", "specification-source", "service-config", "language", "template-dir"]

/-- The values of the settings, in the order of their positions. -/
def values (g : GeneralSettings) : List (Option String) :=
  [g.specificationFormat, g.specificationSource, g.serviceConfig, g.language, g.templateDir]

/-- The settings that are there, with their names. -/
def members (g : GeneralSettings) : List (String × String) :=
  (names.zip g.values).filterMap fun (name, value) => value.map fun s => (name, s)

/-- Settings by position; those that are left out are not set. -/
def ofValues (values : List (Option String)) : GeneralSettings where
  specificationFormat := values[0]?.join
  specificationSource := values[1]?.join
  serviceConfig := values[2]?.join
  language := values[3]?.join
  templateDir := values[4]?.join

/-- Reads the settings from a table, in which other members are passed over, or from an array, in
which they stand in their order.  Every setting must be a string. -/
def ofToml (v : Toml.Value) : Option GeneralSettings :=
  match v, v.members? with
  | .array items, _ =>
      ((items.take names.length).mapM fun item => (Toml.Value.text? item).map some).map ofValues
  | _, some members =>
      (names.mapM fun name =>
        match members.lookup name with
        | some item => item.text?.map some
        | none => some none).map ofValues
  | _, none => none

end GeneralSettings

namespace Config

/-- Reads a table of strings. -/
def stringsOfToml (v : Toml.Value) : Option (Table String String) := do
  let members ← v.members?
  return Table.ofList (← members.mapM fun (name, item) => item.text?.map fun s => (name, s))

/-- Reads the member of a document, which can be missing. -/
def readMember {α : Type} (members : List (String × Toml.Value)) (name : String) (missing : α)
    (read : Toml.Value → Option α) : Option α :=
  match members.lookup name with
  | some v => read v
  | none => some missing

/-- Reads a layer from the members of a document, of which others are passed over. -/
def ofMembers (members : List (String × Toml.Value)) : Option Config := do
  let general ← readMember members "general" {} GeneralSettings.ofToml
  let source ← readMember members "source" ∅ stringsOfToml
  let codec ← readMember members "codec" ∅ stringsOfToml
  return { general, source, codec }

/-- Reads a layer from a TOML document. -/
def ofText (text : String) : Except ConfigError Config :=
  match (Toml.document text).bind ofMembers with
  | some c => .ok c
  | none => .error .malformed

/-- A table of options after an empty line, nothing if there are no options. -/
def optionsText (name : String) (options : Table String String) : List Char :=
  if options.entries.isEmpty then [] else '\n' :: Toml.writeTable name options.entries

/-- The TOML document of a layer. -/
def toText (c : Config) : String :=
  String.ofList (Toml.writeTable "general" c.general.members ++ optionsText "source" c.source ++
    optionsText "codec" c.codec)

/-! ## Files -/

/-- The name of the file that holds a layer. -/
def fileName : String := ".sidekick.toml"

/-- The path of the file in a directory. -/
def pathIn (dir : String) : String :=
  Path.join dir fileName

/-- Loads the layer of a directory; without a file it is empty. -/
def load (dir : String) : Action ConfigError Config := do
  let w ← get
  if !w.tree.pathExists w.directory (pathIn dir) then return {}
  match w.tree.readText w.directory (pathIn dir) with
  | .error _ => throw (.unreadable (pathIn dir))
  | .ok text =>
      match ofText text with
      | .error _ => throw (.malformedFile (pathIn dir))
      | .ok c => return c

/-- Saves a layer in a directory, which is created if it is missing. -/
def save (c : Config) (dir : String) : Action ConfigError Unit := do
  (Action.work fun tree directory => tree.ensureDirectories directory dir).mapError
    fun _ => .noDirectory dir
  (Action.change fun tree directory => tree.writeText directory (pathIn dir) c.toText).mapError
    fun _ => .unwritable (pathIn dir)

end Config

end ClientGen
