import ClientGen.Project.World
import ClientGen.Template.Rendering
import ClientGen.Text.Lines

/-!
# Generating a client library

The templates of a language form a directory tree.  Generation goes through that tree and builds the
output directory in its image: a directory for each directory, and for each template a file of the
same name without the extension that marks templates.  All other files of the tree are left alone.

A template whose name has more than one dot besides that of the extension is a partial: other
templates can include it and import its macros, but it has no file of its own.

All templates are loaded and the context is built before anything is written.  Then the tree is
walked through a second time, and each directory is listed only when it is met.  The first failure
ends generation, and what was written before stays.
-/

namespace ClientGen

/-- The extension of the files that are templates. -/
def templateExtension : String := "jinja2"

/-- Is the path that of a template? -/
def isTemplate (path : String) : Bool :=
  Path.extension? path = some templateExtension

/-- The name of a template without the extension. -/
def withoutTemplateExtension (fileName : String) : String :=
  match Text.dropEnd? ('.' :: templateExtension.toList) fileName.toList with
  | some stem => String.ofList stem
  | none => fileName

/-- Is the template one that only others use? -/
def isPartial (fileName : String) : Bool :=
  1 < (withoutTemplateExtension fileName).toList.count '.'

/-- What to generate, and where from and to. -/
structure Generation where
  api : Api
  codec : Codec
  /-- The directory to generate into, the working directory if empty. -/
  outputDir : String
  /-- The directory that has one directory of templates for each language. -/
  templateDir : String

namespace Generation

/-- The directory of the templates for the language. -/
def templateRoot (r : Generation) : String :=
  Path.join r.templateDir r.codec.templateDir

/-- The path of the directory to generate into. -/
def outputRoot (r : Generation) : String :=
  if r.outputDir.isEmpty then "." else r.outputDir

end Generation

namespace FileTree

/-- What a walk meets, or the error that there is nothing to walk through. -/
def stops (t : FileTree) (directory : Place) (path : String) : Except GeneratorError (List Stop) :=
  match t.walk directory path with
  | .ok stops => .ok stops
  | .error _ => .error (.walk path)

/-- The name and the text of the template at a stop. -/
def templateAt? (stop : Stop) : Option (String × List UInt8) :=
  match stop.entry with
  | .file content => if isTemplate stop.path then some (Path.slashed stop.names, content) else none
  | .directory => none

/-- The library of the templates at some stops. -/
def libraryOf (stops : List Stop) : Except GeneratorError Template.Library :=
  let texts := (stops.filterMap templateAt?).mapM fun (name, content) =>
    (Text.Utf8.decode? content).map fun text => (name, text)
  match texts.bind Template.Library.ofTexts with
  | some library => .ok library
  | none => .error .template

/-- Does something at each of some stops, up to the first failure. -/
def inTurn (act : FileTree → Stop → Except GeneratorError Unit × FileTree) :
    FileTree → List Stop → Except GeneratorError Unit × FileTree
  | t, [] => (.ok (), t)
  | t, stop :: stops =>
      match act t stop with
      | (.ok (), t) => inTurn act t stops
      | (.error e, t) => (.error e, t)

end FileTree

/-- What is rendered from the templates, and where the results go. -/
structure Rendition where
  library : Template.Library
  context : Context
  /-- The directory to generate into. -/
  outputRoot : String

namespace Rendition

/-- The path of what is made from a template. -/
def target (r : Rendition) (names : List String) : String :=
  Path.joinAll r.outputRoot
    (names.dropLast ++ [(Path.splitExtension (names.getLast?.getD "")).1])

/-- Does what one stop of the walk asks for: creates a directory or renders a template. -/
def visit (r : Rendition) (directory : Place) (t : FileTree) (stop : FileTree.Stop) :
    Except GeneratorError Unit × FileTree :=
  match stop.entry with
  | .directory =>
      let (result, t) := t.ensureDirectories directory (Path.joinAll r.outputRoot stop.names)
      (result.mapError .file, t)
  | .file _ =>
      if !isTemplate stop.path || isPartial stop.fileName then (.ok (), t)
      else
        match r.library.render r.context (Path.slashed stop.names) with
        | none => (.error (.render (Path.slashed stop.names)), t)
        | some text =>
            match t.writeText directory (r.target stop.names) text with
            | .ok t => (.ok (), t)
            | .error fault => (.error (.file fault), t)

/-- Goes from a stop through everything below it and does what each stop asks for.  A directory is
listed when it is met, just before it is visited, so what the visits before have made in it is met
as well.  The walk can go a number of stops deep, and then paths get too long to go on. -/
def tour (r : Rendition) (directory root : Place) :
    Nat → FileTree → FileTree.Stop → Except GeneratorError Unit × FileTree
  | 0, t, _ => (.error (.file .refused), t)
  | depth + 1, t, stop =>
      let listed := t.listing root stop
      match r.visit directory t stop with
      | (.ok (), t) => FileTree.inTurn (r.tour directory root depth) t listed
      | (.error e, t) => (.error e, t)

/-- How deep a walk can go.  It suffices for everything that is there and for the directories on the
way of the output path; only a walk that keeps meeting its own output can go deeper. -/
def depthLimit (r : Rendition) (directory : Place) (t : FileTree) : Nat :=
  t.depth + directory.length + (Path.parts r.outputRoot).length + 1

/-- Walks through the templates at a path and makes what each stop asks for. -/
def renderTree (r : Rendition) (directory : Place) (t : FileTree) (path : String) :
    Except GeneratorError Unit × FileTree :=
  match t.start directory path with
  | .ok (root, stop) => r.tour directory root (r.depthLimit directory t) t stop
  | .error _ => (.error (.walk path), t)

end Rendition

namespace Generation

/-- Loads the templates and builds the context for them.  Nothing is written yet. -/
def prepare (r : Generation) (t : FileTree) (directory : Place) :
    Except GeneratorError Rendition := do
  let stops ← t.stops directory r.templateRoot
  let library ← FileTree.libraryOf stops
  let context ← r.codec.contextOf r.api
  return { library, context, outputRoot := r.outputRoot }

/-- Generates a client library into a file tree, seen from a directory. -/
def generate (r : Generation) (t : FileTree) (directory : Place) :
    Except GeneratorError Unit × FileTree :=
  match r.prepare t directory with
  | .error e => (.error e, t)
  | .ok rendition => rendition.renderTree directory t r.templateRoot

/-- Generates a client library from the working directory. -/
def run (r : Generation) : Action GeneratorError Unit :=
  Action.work r.generate

end Generation

end ClientGen
