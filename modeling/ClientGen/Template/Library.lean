import ClientGen.Table
import ClientGen.Template.Node

/-!
# Template libraries

Templates by name.  A library is complete: every template that one inherits from is there, and so is
every file that macros are imported from; no template inherits from itself.
-/

namespace ClientGen.Template

/-- Templates by name. -/
structure Library where
  templates : Table String Template := ∅

/-- The macros of one template. -/
structure MacroSource where
  /-- The name of the template that has the macros. -/
  template : String
  macros : List (String × Macro)

namespace Library

variable (l : Library)

/-- The template of a name. -/
def get? (name : String) : Option Template :=
  l.templates.get? name

/-- The templates that one inherits from, the nearest first; none if the chain is broken or longer
than the given number. -/
def ancestorsWithin : Nat → Template → Option (List Template)
  | 0, _ => none
  | n + 1, t =>
      match t.parent with
      | none => some []
      | some parent =>
          match l.get? parent with
          | none => none
          | some parent => (ancestorsWithin n parent).map (parent :: ·)

/-- The templates that one inherits from, the nearest first; none if one is missing or the chain
has no end. -/
def ancestors? (t : Template) : Option (List Template) :=
  l.ancestorsWithin (l.templates.size + 1) t

/-- The templates that one inherits from, the nearest first. -/
def ancestors (t : Template) : List Template :=
  (l.ancestors? t).getD []

/-- Is everything there that the templates refer to? -/
def isComplete : Bool :=
  l.templates.values.all fun t =>
    (l.ancestors? t).isSome && t.imports.all fun (file, _) => (l.get? file).isSome

/-- The library of some texts by name. -/
def ofTexts (texts : List (String × String)) : Option Library :=
  match texts.mapM fun (name, text) => (Template.ofText name text).map fun t => (name, t) with
  | none => none
  | some templates =>
      let l : Library := ⟨Table.ofList templates⟩
      if l.isComplete then some l else none

/-! ## Macros -/

/-- Adds the sources whose names are new. -/
def addSources (sources more : List (String × MacroSource)) : List (String × MacroSource) :=
  sources ++ more.filter fun (name, _) => !sources.any (·.1 = name)

/-- Puts in a source under a name, over the one that was there. -/
def setSource (sources : List (String × MacroSource)) (name : String) (source : MacroSource) :
    List (String × MacroSource) :=
  sources.filter (·.1 ≠ name) ++ [(name, source)]

/-- The macros that a template can call, by the names of their libraries: its own as `self`, those
it imports, and those that the imported files and the inherited templates can call.  The first
argument bounds how far that goes. -/
def sourcesWithin : Nat → Template → List (String × MacroSource)
  | 0, _ => []
  | n + 1, t =>
      let own := if t.macros.isEmpty then [] else [("self", ⟨t.name, t.macros⟩)]
      let imported := t.imports.foldl
        (fun sources (file, name) =>
          match l.get? file with
          | none => sources
          | some t => addSources (setSource sources name ⟨t.name, t.macros⟩) (sourcesWithin n t))
        own
      (l.ancestors t).foldl (fun sources t => addSources sources (sourcesWithin n t)) imported

/-- The macro that a template calls by a library and a name, with the template that has it. -/
def macro? (caller library name : String) : Option (String × Macro) :=
  match l.get? caller with
  | none => none
  | some t =>
      match (l.sourcesWithin (l.templates.size + 1) t).lookup library with
      | none => none
      | some source => (source.macros.lookup name).map fun m => (source.template, m)

end Library

end ClientGen.Template
