import ClientGen.Project.Command
import ClientGen.Text.Blank
import ClientGen.Text.Lines

/-!
# The command line

The commands `generate` and `refresh` have options of their own.  Two options belong to both and can
also stand before the command; after the command they count more.

An option has its value behind an equals sign or as the next argument, which then must not look like
an option.  Only options that add to a list can be repeated.  Arguments are read from left to right,
so help or the version is shown if nothing before it is wrong.
-/

namespace ClientGen

/-- What can be wrong with a command line. -/
inductive UsageError where
  | unknownArgument (arg : String)
  | unknownCommand (name : String)
  | missingCommand
  | missingOption (name : String)
  | missingValue (name : String)
  | unexpectedValue (name : String)
  | repeatedOption (name : String)
  /-- A text does not give a name a value. -/
  | notKeyValue (text : String)
deriving DecidableEq, Repr

/-- The error in words. -/
def UsageError.message : UsageError → String
  | .unknownArgument arg => "unexpected argument '" ++ arg ++ "' found"
  | .unknownCommand name => "unrecognized subcommand '" ++ name ++ "'"
  | .missingCommand => "a subcommand is required"
  | .missingOption name => "the option --" ++ name ++ " is required"
  | .missingValue name => "a value is required for --" ++ name
  | .unexpectedValue name => "no value is allowed for --" ++ name
  | .repeatedOption name => "--" ++ name ++ " cannot be used multiple times"
  | .notKeyValue text => "invalid KEY=VALUE: no \x60=\x60 found in " ++ Text.quoted text

/-- Reads a text that gives a name a value: the first equals sign separates them. -/
def parseKeyValue (text : String) : Except UsageError (String × String) :=
  match Text.splitAtFirst '=' text.toList with
  | some (c :: key, value) => .ok (String.ofList (c :: key), String.ofList value)
  | _ => .error (.notKeyValue text)

/-! ## Logging -/

/-- What is logged if nothing is asked for. -/
def defaultFilter : String := "info"

/-- What to log: what the flag says, without a flag what the environment says; a blank text asks
for nothing. -/
def logFilter (flag environment : Option String) : String :=
  match (flag.or environment).filter fun s => !(Text.trim s.toList).isEmpty with
  | some directive => directive
  | none => defaultFilter

/-! ## Arguments -/

/-- An argument by its look. -/
inductive Argument where
  /-- A word, also an empty one or a single dash. -/
  | word (text : String)
  /-- A single letter after a dash. -/
  | short (letter : Char)
  | long (name : String) (value : Option String)
  /-- Two dashes, after which there are only words. -/
  | separator
deriving DecidableEq, Repr

/-- The argument that a text is. -/
def Argument.ofString (text : String) : Argument :=
  match text.toList with
  | ['-', '-'] => .separator
  | '-' :: '-' :: rest =>
      match Text.splitAtFirst '=' rest with
      | some (name, value) => .long (String.ofList name) (some (String.ofList value))
      | none => .long (String.ofList rest) none
  | '-' :: letter :: _ => .short letter
  | _ => .word text

/-- The options that a command can have. -/
inductive OptionName where
  | projectRoot
  | logLevel
  | specificationFormat
  | specificationSource
  | serviceConfig
  | language
  | output
  | templateDir
  | sourceOption
  | codecOption
deriving DecidableEq, Repr

namespace OptionName

/-- How an option is written after two dashes. -/
def text : OptionName → String
  | projectRoot => "project-root"
  | logLevel => "log-level"
  | specificationFormat => "specification-format"
  | specificationSource => "specification-source"
  | serviceConfig => "service-config"
  | language => "language"
  | output => "output"
  | templateDir => "template-dir"
  | sourceOption => "source-option"
  | codecOption => "codec-option"

/-- The options that belong to all commands. -/
def shared : List OptionName :=
  [projectRoot, logLevel]

/-- The options of `generate`. -/
def ofGenerate : List OptionName :=
  [specificationFormat, specificationSource, serviceConfig, language, output, templateDir,
    sourceOption, codecOption] ++ shared

/-- The options of `refresh`. -/
def ofRefresh : List OptionName :=
  output :: shared

/-- Can the option be repeated? -/
def isRepeatable (o : OptionName) : Bool :=
  o = sourceOption || o = codecOption

end OptionName

/-- The options that were given, with their values, in their order. -/
abbrev GivenOptions := List (OptionName × String)

namespace GivenOptions

/-- The value of an option. -/
def get? (given : GivenOptions) (o : OptionName) : Option String :=
  given.lookup o

/-- The pairs that the values of an option stand for. -/
def pairs (given : GivenOptions) (o : OptionName) : List (String × String) :=
  (given.filter (·.1 = o)).filterMap fun (_, text) => (parseKeyValue text).toOption

end GivenOptions

/-- The places at which an argument can stand. -/
inductive Level where
  | top
  | generate
  | refresh
deriving DecidableEq, Repr

namespace Level

/-- The options that can stand at a place. -/
def options : Level → List OptionName
  | top => OptionName.shared
  | generate => OptionName.ofGenerate
  | refresh => OptionName.ofRefresh

/-- Must the value of the option name a path, which cannot be empty? -/
def wantsPath (level : Level) (o : OptionName) : Bool :=
  o = .projectRoot || (level = .refresh && o = .output)

/-- Refuses a value that the option cannot have. -/
def check (level : Level) (o : OptionName) (value : String) : Except UsageError Unit :=
  if level.wantsPath o && value.isEmpty then .error (.missingValue o.text)
  else if o.isRepeatable then (parseKeyValue value).map fun _ => ()
  else .ok ()

/-- Adds an option with its value to those that were given. -/
def give (level : Level) (given : GivenOptions) (o : OptionName) (value : String) :
    Except UsageError GivenOptions :=
  if !o.isRepeatable && (given.get? o).isSome then .error (.repeatedOption o.text)
  else
    match level.check o value with
    | .error e => .error e
    | .ok () => .ok (given ++ [(o, value)])

end Level

/-- Where the options of a place end. -/
inductive Ending where
  /-- There are no more arguments. -/
  | finished
  | help
  | version
  /-- A word stands where no option needs it. -/
  | word (text : String) (rest : List String)
deriving DecidableEq, Repr

/-- Reads options from the left, up to something else. -/
def readOptions (level : Level) : GivenOptions → List String →
    Except UsageError (GivenOptions × Ending)
  | given, [] => .ok (given, .finished)
  | given, arg :: rest =>
      match Argument.ofString arg, rest with
      | .word text, rest => .ok (given, .word text rest)
      | .separator, [] => .ok (given, .finished)
      | .separator, word :: _ => .error (.unknownArgument word)
      | .short letter, _ =>
          if letter = 'h' then .ok (given, .help)
          else if letter = 'V' ∧ level = .top then .ok (given, .version)
          else .error (.unknownArgument arg)
      | .long "help" none, _ => .ok (given, .help)
      | .long "help" (some _), _ => .error (.unexpectedValue "help")
      | .long name value, rest =>
          if name = "version" ∧ level = .top then
            if value.isSome then .error (.unexpectedValue name) else .ok (given, .version)
          else
            match level.options.find? (·.text = name), value, rest with
            | none, _, _ => .error (.unknownArgument arg)
            | some o, some value, rest =>
                match level.give given o value with
                | .error e => .error e
                | .ok given => readOptions level given rest
            | some _, none, [] => .error (.missingValue name)
            | some o, none, next :: rest =>
                match Argument.ofString next with
                | .word value =>
                    match level.give given o value with
                    | .error e => .error e
                    | .ok given => readOptions level given rest
                | _ => .error (.missingValue name)

/-! ## Commands -/

/-- What to do. -/
inductive Command where
  | generate (flags : GenerateFlags)
  | refresh (output : String)
deriving DecidableEq, Repr

/-- A command with the options that belong to all commands. -/
structure Invocation where
  projectRoot : Option String := none
  logLevel : Option String := none
  command : Command
deriving DecidableEq, Repr

/-- What a command line asks for. -/
inductive Request where
  | help
  | version
  | run (invocation : Invocation)
deriving DecidableEq, Repr

namespace Request

/-- The flags of `generate` among the options that were given. -/
def flagsOf (given : GivenOptions) (output : String) : GenerateFlags where
  general :=
    { specificationFormat := given.get? .specificationFormat
      specificationSource := given.get? .specificationSource
      serviceConfig := given.get? .serviceConfig
      language := given.get? .language
      templateDir := given.get? .templateDir }
  output
  sourceOptions := given.pairs .sourceOption
  codecOptions := given.pairs .codecOption

/-- Reads the arguments after the name of a command; the first options are those before it. -/
def ofCommand (level : Level) (before : GivenOptions) (command : GivenOptions → String → Command)
    (args : List String) : Except UsageError Request :=
  match readOptions level [] args with
  | .error e => .error e
  | .ok (_, .help) => .ok .help
  | .ok (_, .version) => .ok .version
  | .ok (_, .word text _) => .error (.unknownArgument text)
  | .ok (given, .finished) =>
      match given.get? .output with
      | none => .error (.missingOption OptionName.output.text)
      | some output =>
          .ok (.run
            { projectRoot := (given.get? .projectRoot).or (before.get? .projectRoot)
              logLevel := (given.get? .logLevel).or (before.get? .logLevel)
              command := command given output })

/-- The names of the commands, `help` included. -/
def commandNames : List String :=
  ["generate", "refresh", "help"]

/-- Reads the arguments after `help`, which name a command. -/
def ofHelp : List String → Except UsageError Request
  | [] => .ok .help
  | [name] => if commandNames.contains name then .ok .help else .error (.unknownCommand name)
  | name :: next :: _ =>
      .error (.unknownCommand (if commandNames.contains name then next else name))

/-- What a command line asks for. -/
def ofArguments (args : List String) : Except UsageError Request :=
  match readOptions .top [] args with
  | .error e => .error e
  | .ok (_, .help) => .ok .help
  | .ok (_, .version) => .ok .version
  | .ok (_, .finished) => .error .missingCommand
  | .ok (before, .word name rest) =>
      if name = "generate" then
        ofCommand .generate before (fun given output => .generate (flagsOf given output)) rest
      else if name = "refresh" then
        ofCommand .refresh before (fun _ output => .refresh output) rest
      else if name = "help" then ofHelp rest
      else .error (.unknownCommand name)

end Request

/-! ## Running -/

/-- How the program ends. -/
structure Outcome where
  status : Nat
  stdout : String := ""
  stderr : String := ""
deriving DecidableEq, Repr

/-- The name and the version of the program. -/
def versionText : String := "sidekick 0.1.0\n"

/-- How the program is used. -/
def helpText : String :=
  "Generate client libraries from API specifications\n\nUsage: sidekick [OPTIONS] <COMMAND>\n\n" ++
  "Commands:\n  generate  Generate a client library\n" ++
  "  refresh   Regenerate a client library using its saved configuration\n"

/-- How an error is reported: the error itself, and below it what is behind it. -/
def CommandError.report (e : CommandError) : String :=
  "Error: " ++ e.message ++ "\n" ++
    match e with
    | .format _ => ""
    | e =>
        match e.cause? with
        | some cause => "\nCaused by:\n    " ++ cause.message ++ "\n"
        | none => ""

namespace Invocation

/-- Goes to the directory in which the command is to be run. -/
def enter : Option String → Action CommandError Unit
  | none => pure ()
  | some root => do
      let w ← get
      match w.tree.isDirectory w.directory root, w.tree.locate w.directory root with
      | true, .ok directory => set { w with directory }
      | _, _ => throw (.noDirectory root)

/-- Runs the command. -/
def run (i : Invocation) : Action CommandError Unit := do
  enter i.projectRoot
  match i.command with
  | .generate flags => flags.run
  | .refresh output => ClientGen.refresh output

end Invocation

/-- Runs the program with some arguments.  That it goes to another directory is seen by no one
else. -/
def runProgram (args : List String) (w : World) : Outcome × World :=
  match Request.ofArguments args with
  | .error e => ({ status := 2, stderr := "error: " ++ e.message ++ "\n" }, w)
  | .ok .help => ({ status := 0, stdout := helpText }, w)
  | .ok .version => ({ status := 0, stdout := versionText }, w)
  | .ok (.run invocation) =>
      match invocation.run.run.run w with
      | (.ok (), after) => ({ status := 0 }, { after with directory := w.directory })
      | (.error e, after) =>
          ({ status := 1, stderr := e.report }, { after with directory := w.directory })

end ClientGen
