import ClientGen.Schema.ServiceConfig
import ClientGen.Yaml.Node

/-!
# Reading service configs

A service config is a mapping.  Every scalar counts as text, keys that are not asked for are passed
over, and what is left out is empty, also the whole document.  A key that is asked for must not
occur twice.
-/

namespace ClientGen.ServiceConfig

open Yaml (Node)

/-- The node that an alias of a document refers to; any other node stands for itself. -/
def target (root : Node) : Node → Node
  | .reference number => (root.find? number).getD .blank
  | node => node

/-- The text of a scalar. -/
def scalarText? (root node : Node) : Option String :=
  match target root node with
  | .scalar _ text _ => some text
  | _ => none

/-- The members of a mapping, none if it is left out.  All keys must be scalars. -/
def members? (root node : Node) : Option (List (String × Node)) :=
  match target root node with
  | .mapping _ members =>
      members.mapM fun (key, value) => (scalarText? root key).map fun key => (key, value)
  | .scalar _ text plain => if text = "" && plain then some [] else none
  | _ => none

/-- Reads the member of a key that must not occur twice. -/
def readMember {α : Type} (key : String) (missing : α) (read : Node → Option α)
    (members : List (String × Node)) : Option α :=
  match members.filter (·.1 = key) with
  | [] => some missing
  | [(_, value)] => read value
  | _ => none

/-- Reads the summary from the documentation. -/
def readSummary (root node : Node) : Option String :=
  (members? root node).bind (readMember "summary" "" (scalarText? root))

/-- Reads a service config from its document. -/
def ofDocument (root : Node) : Option ServiceConfig := do
  let members ← members? root root
  let name ← readMember "name" "" (scalarText? root) members
  let title ← readMember "title" "" (scalarText? root) members
  let summary ← readMember "documentation" "" (readSummary root) members
  return { name, title, summary }

/-- Reads a service config, which must have a name.  The path is for messages only. -/
def ofText (text path : String) : Except GeneratorError ServiceConfig :=
  match (Yaml.document text).bind fun root => ofDocument (root.getD .blank) with
  | none => .error (.serviceConfig path)
  | some config => if config.name = "" then .error (.unnamedServiceConfig path) else .ok config

end ClientGen.ServiceConfig
