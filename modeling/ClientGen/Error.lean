import ClientGen.Text.Quoted

/-!
# Why generation fails

One inductive type with a constructor per cause, and one function for the wording.  An element that
refers to something unknown is no error: it is left out or spelled empty.
-/

namespace ClientGen

/-- How a program ended. -/
inductive ExitStatus where
  | code (n : Nat)
  | signal (n : Nat)
deriving DecidableEq, Repr

namespace ExitStatus

/-- Did the program report success? -/
def isSuccess : ExitStatus → Bool
  | .code n => n = 0
  | .signal _ => false

/-- The names of the signals that stop a program. -/
def signalName : Nat → String
  | 1 => " (SIGHUP)"
  | 2 => " (SIGINT)"
  | 3 => " (SIGQUIT)"
  | 4 => " (SIGILL)"
  | 5 => " (SIGTRAP)"
  | 6 => " (SIGABRT)"
  | 7 => " (SIGBUS)"
  | 8 => " (SIGFPE)"
  | 9 => " (SIGKILL)"
  | 10 => " (SIGUSR1)"
  | 11 => " (SIGSEGV)"
  | 12 => " (SIGUSR2)"
  | 13 => " (SIGPIPE)"
  | 14 => " (SIGALRM)"
  | 15 => " (SIGTERM)"
  | 16 => " (SIGSTKFLT)"
  | 17 => " (SIGCHLD)"
  | 18 => " (SIGCONT)"
  | 19 => " (SIGSTOP)"
  | 20 => " (SIGTSTP)"
  | 21 => " (SIGTTIN)"
  | 22 => " (SIGTTOU)"
  | 23 => " (SIGURG)"
  | 24 => " (SIGXCPU)"
  | 25 => " (SIGXFSZ)"
  | 26 => " (SIGVTALRM)"
  | 27 => " (SIGPROF)"
  | 28 => " (SIGWINCH)"
  | 29 => " (SIGIO)"
  | 30 => " (SIGPWR)"
  | 31 => " (SIGSYS)"
  | _ => ""

/-- The status in words. -/
def message : ExitStatus → String
  | .code n => "exit status: " ++ toString n
  | .signal n => "signal: " ++ toString n ++ signalName n

end ExitStatus

/-- Why a file operation fails. -/
inductive FileFault where
  | notFound
  | notADirectory
  | isADirectory
  | alreadyExists
  | refused
  | notText
deriving DecidableEq, Repr

/-- Why parsing, validation or generation fails. -/
inductive GeneratorError where
  /-- A file operation failed. -/
  | file (fault : FileFault)
  /-- A directory tree could not be walked. -/
  | walk (path : String)
  /-- The schema compiler could not be started. -/
  | compilerNotFound (program : String)
  /-- The schema compiler reported failure. -/
  | compilerFailed (status : ExitStatus) (stderr : String)
  /-- The compiled descriptors are malformed. -/
  | descriptors
  /-- The service config is no document of the expected shape. -/
  | serviceConfig (path : String)
  /-- The service config has no name. -/
  | unnamedServiceConfig (path : String)
  /-- An element is not in the package of the first one. -/
  | mixedPackages (want got id : String)
  /-- The codec declines a capability. -/
  | unsupported (language capability : String)
  /-- A template could not be loaded. -/
  | template
  /-- A template could not be rendered. -/
  | render (name : String)
  /-- The rendering context could not be built. -/
  | context
  | unknownLanguage (language : String)
  | unknownSpecificationFormat (format : String)
  /-- An import mapping option does not name one package. -/
  | importMappingKey (key : String)
  /-- An import mapping does not consist of a path and a name. -/
  | importMappingValue (key value : String)
deriving DecidableEq, Repr

namespace GeneratorError

/-- Did a codec decline a capability, rather than fail? -/
def isUnsupported : GeneratorError → Bool
  | .unsupported _ _ => true
  | _ => false

/-- The error in words. -/
def message : GeneratorError → String
  | .file _ => "I/O error"
  | .walk path => "directory walk error: " ++ path
  | .compilerNotFound program =>
      "cannot run " ++ program ++ ": No such file or directory (os error 2)"
  | .compilerFailed status stderr =>
      "error calling protoc (" ++ status.message ++ ")\ndetails:\n" ++ stderr
  | .descriptors => "cannot decode descriptor set"
  | .serviceConfig path => "error parsing service config " ++ path
  | .unnamedServiceConfig path => "invalid API service config file " ++ Text.quoted path
  | .mixedPackages want got id =>
      "validation failed: go codec requires all top-level elements to be in the same package want="
        ++ want ++ ", got=" ++ got ++ " for " ++ id
  | .unsupported language capability =>
      capability ++ " is not supported by the " ++ language ++ " codec"
  | .template => "template error"
  | .render name => "cannot render " ++ name
  | .context => "cannot build template context"
  | .unknownLanguage language => "unknown language: " ++ language
  | .unknownSpecificationFormat format => "unknown specification format: " ++ format
  | .importMappingKey key =>
      "invalid option " ++ key ++ ": key should be in the format import-mapping:proto.path"
  | .importMappingValue key value =>
      "invalid option " ++ key ++ ": " ++ Text.quoted value ++ " should be in the format path;name"

end GeneratorError

end ClientGen
