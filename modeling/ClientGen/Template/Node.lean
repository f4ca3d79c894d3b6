import ClientGen.Template.Piece

/-!
# Parsed templates

The pieces of a template, nested as their start and end tags say.  A template inherits from another
one only at its very start; macros are defined and imported at its top level only, and no block
stands in a macro.
-/

namespace ClientGen.Template

/-- A part of a template. -/
inductive Node where
  | text (text : String)
  | output (e : Expr)
  | includeFile (names : List String) (ignoreMissing : Bool)
  | assign (name : String) (global : Bool) (value : Expr)
  | block (name : String) (body : List Node)
  /-- The same block of the template that is inherited from. -/
  | inheritedBlock
  | branch (cases : List (Expr × List Node)) (otherwise : List Node)
  | loop (key : Option String) (value : String) (container : Expr) (body empty : List Node)
  | filterText (filter : Call) (body : List Node)
  | breakLoop
  | continueLoop
  /-- Inheritance where the template is included by another one. -/
  | inherits (parent : String)
deriving Inhabited

/-- A macro. -/
structure Macro where
  parameters : List Parameter
  body : List Node

end ClientGen.Template

namespace ClientGen

/-- A template. -/
structure Template where
  name : String := ""
  nodes : List Template.Node := []
  /-- The template that this one inherits from. -/
  parent : Option String := none
  /-- The blocks that are not inside other tags than blocks. -/
  blocks : List (String × List Template.Node) := []
  macros : List (String × Template.Macro) := []
  /-- The files that macros come from, with the names of their libraries. -/
  imports : List (String × String) := []
deriving Inhabited

end ClientGen

namespace ClientGen.Template

/-! ## Nesting -/

/-- What surrounds some pieces. -/
structure Surroundings where
  inBlock : Bool := false
  inMacro : Bool := false

/-- The node of a printed value.  Inside a block a call of `super` prints the inherited block. -/
def outputNode (s : Surroundings) (e : Expr) : Node :=
  match e with
  | .mk (.call (.mk "super" [])) false [] => if s.inBlock then .inheritedBlock else .output e
  | _ => .output e

/-- The pieces behind an end tag, if that is what comes next. -/
def behind (isEnd : Piece → Bool) : List Piece → Option (List Piece)
  | piece :: rest => if isEnd piece then some rest else none
  | [] => none

/-- Is the piece the end of a branch? -/
def Piece.isEndIf : Piece → Bool
  | .endIf => true
  | _ => false

/-- Is the piece the end of a loop? -/
def Piece.isEndFor : Piece → Bool
  | .endFor => true
  | _ => false

/-- Is the piece the end of filtered text? -/
def Piece.isEndFilter : Piece → Bool
  | .endFilter => true
  | _ => false

/-- Is the piece the end of a block? -/
def Piece.isEndBlock : Piece → Bool
  | .endBlock => true
  | _ => false

/-- Is the piece the end of a macro? -/
def Piece.isEndMacro : Piece → Bool
  | .endMacro => true
  | _ => false

mutual

/-- Reads nodes up to a piece that does not start one.  The first argument bounds the number of
pieces that are read. -/
def readNodes : Nat → Surroundings → List Piece → Option (List Node × List Piece)
  | 0, _, pieces => some ([], pieces)
  | fuel + 1, s, pieces =>
      match pieces with
      | [] => some ([], [])
      | piece :: rest =>
          match readNode fuel s piece rest with
          | none => none
          | some none => some ([], pieces)
          | some (some (first, rest)) =>
              (readNodes fuel s rest).map fun (more, rest) => (first ++ more, rest)

/-- Reads the node that starts with a piece; none if the piece does not start one. -/
def readNode : Nat → Surroundings → Piece → List Piece → Option (Option (List Node × List Piece))
  | 0, _, _, _ => none
  | fuel + 1, s, piece, rest =>
      match piece with
      | .text text => some (some ([.text (String.ofList text)], rest))
      | .raw text => some (some ([.text (String.ofList text)], rest))
      | .comment => some (some ([], rest))
      | .output e => some (some ([outputNode s e], rest))
      | .includeFile names ignoreMissing => some (some ([.includeFile names ignoreMissing], rest))
      | .assign name global value => some (some ([.assign name global value], rest))
      | .breakLoop => some (some ([.breakLoop], rest))
      | .continueLoop => some (some ([.continueLoop], rest))
      | .block name =>
          if s.inMacro then none
          else
            (enclosed fuel { s with inBlock := true } Piece.isEndBlock rest).map
              fun (body, rest) => some ([.block name body], rest)
      | .filterStart filter =>
          (enclosed fuel s Piece.isEndFilter rest).map fun (body, rest) =>
            some ([.filterText filter body], rest)
      | .ifStart condition =>
          (branches fuel s condition rest).map fun (cases, otherwise, rest) =>
            some ([.branch cases otherwise], rest)
      | .forStart key value container =>
          match readNodes fuel s rest with
          | none => none
          | some (body, .otherwise :: rest) =>
              (enclosed fuel s Piece.isEndFor rest).map fun (empty, rest) =>
                some ([.loop key value container body empty], rest)
          | some (body, rest) =>
              (behind Piece.isEndFor rest).map fun rest =>
                some ([.loop key value container body []], rest)
      | _ => some none

/-- Reads nodes and the end tag behind them. -/
def enclosed : Nat → Surroundings → (Piece → Bool) → List Piece → Option (List Node × List Piece)
  | 0, _, _, _ => none
  | fuel + 1, s, isEnd, pieces =>
      match readNodes fuel s pieces with
      | none => none
      | some (body, rest) => (behind isEnd rest).map fun rest => (body, rest)

/-- Reads the cases of a branch behind the first condition. -/
def branches : Nat → Surroundings → Expr → List Piece →
    Option (List (Expr × List Node) × List Node × List Piece)
  | 0, _, _, _ => none
  | fuel + 1, s, condition, pieces =>
      match readNodes fuel s pieces with
      | none => none
      | some (body, .elif next :: rest) =>
          (branches fuel s next rest).map fun (cases, otherwise, rest) =>
            ((condition, body) :: cases, otherwise, rest)
      | some (body, .otherwise :: rest) =>
          (enclosed fuel s Piece.isEndIf rest).map fun (otherwise, rest) =>
            ([(condition, body)], otherwise, rest)
      | some (body, rest) =>
          (behind Piece.isEndIf rest).map fun rest => ([(condition, body)], [], rest)

end

/-! ## Templates -/

/-- Adds an entry unless there is one of its name. -/
def addOnce {α : Type} (entries : List (String × α)) (entry : String × α) :
    Option (List (String × α)) :=
  if entries.any (·.1 = entry.1) then none else some (entries ++ [entry])

mutual

/-- Adds a block and the blocks in it, which must all have different names. -/
def addBlocksOf (blocks : List (String × List Node)) : Node → Option (List (String × List Node))
  | .block name body => (addOnce blocks (name, body)).bind fun blocks => addBlocks blocks body
  | _ => some blocks

/-- Adds the blocks among some nodes. -/
def addBlocks (blocks : List (String × List Node)) : List Node → Option (List (String × List Node))
  | [] => some blocks
  | node :: rest => (addBlocksOf blocks node).bind fun blocks => addBlocks blocks rest

end

/-- Reads the top level of a template.  The first argument bounds the number of pieces. -/
def topLevel : Nat → Template → List Piece → Option Template
  | 0, _, _ => none
  | _ + 1, t, [] => some t
  | fuel + 1, t, piece :: rest =>
      match piece with
      | .importMacros file library =>
          topLevel fuel { t with imports := t.imports ++ [(file, library)] } rest
      | .macroStart name parameters =>
          match enclosed (2 * rest.length + 2) { inMacro := true } Piece.isEndMacro rest with
          | none => none
          | some (body, rest) =>
              match addOnce t.macros (name, ⟨parameters, body⟩) with
              | none => none
              | some macros => topLevel fuel { t with macros } rest
      | _ =>
          match readNode (2 * rest.length + 2) {} piece rest with
          | some (some (nodes, rest)) => topLevel fuel { t with nodes := t.nodes ++ nodes } rest
          | _ => none

/-- Drops the comments at the start. -/
def dropComments : List Piece → List Piece
  | .comment :: rest => dropComments rest
  | pieces => pieces

/-- The template of some pieces. -/
def ofPieces (name : String) (pieces : List Piece) : Option Template :=
  let read :=
    match dropComments pieces with
    | .inherits parent :: rest =>
        topLevel (rest.length + 1) { name, parent, nodes := [.inherits parent] } rest
    | _ => topLevel (pieces.length + 1) { name } pieces
  read.bind fun t => (addBlocks [] t.nodes).map fun blocks => { t with blocks }

/-- The template of a text, unless it is malformed. -/
def ofText (name text : String) : Option Template :=
  (pieces text).bind (ofPieces name)

end ClientGen.Template
