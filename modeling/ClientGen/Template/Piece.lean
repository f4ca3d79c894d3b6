import ClientGen.Template.Reading
import ClientGen.Text.Blank

/-!
# The pieces of a template

A template is text with tags in it.  A minus sign at the edge of a tag removes the white space of
the text beside it.  What stands between `raw` and `endraw` is text whatever it looks like.
-/

namespace ClientGen.Template

/-- A parameter of a macro with the value it has if it is left out. -/
structure Parameter where
  name : String
  fallback : Option Term := none

/-- What a piece of a template is. -/
inductive Piece where
  | text (text : List Char)
  /-- Text that no tag trims from outside. -/
  | raw (text : List Char)
  | comment
  | output (e : Expr)
  | includeFile (names : List String) (ignoreMissing : Bool)
  | importMacros (file library : String)
  | inherits (parent : String)
  | assign (name : String) (global : Bool) (value : Expr)
  | block (name : String)
  | endBlock
  | macroStart (name : String) (parameters : List Parameter)
  | endMacro
  | ifStart (condition : Expr)
  | elif (condition : Expr)
  | otherwise
  | endIf
  | forStart (key : Option String) (value : String) (container : Expr)
  | endFor
  | filterStart (filter : Call)
  | endFilter
  | breakLoop
  | continueLoop

/-- A piece and whether it trims the text before and after it. -/
structure Cut where
  before : Bool := false
  after : Bool := false
  piece : Piece

namespace Reader

/-! ## Tags -/

/-- Drops white space, of which there must be some. -/
def gap (cs : List Char) : Option (List Char) :=
  match cs with
  | c :: rest => if isGap c then some (skipGap rest) else none
  | [] => none

/-- Reads a text in quotes after white space. -/
def gapQuoted : Reader String := fun cs =>
  (gap cs).bind quoted

/-- Reads a name after white space. -/
def gapName : Reader String := fun cs =>
  (gap cs).bind name

/-- Reads one or several texts in brackets, with commas between them. -/
def quotedList : Reader (List String) := fun cs =>
  match literal "[" cs with
  | none => none
  | some cs =>
      let item : Reader String := fun cs => quoted (skipGap cs)
      let (items, cs) := many
        (fun cs =>
          match item cs with
          | none => none
          | some (text, cs) => (next "," cs).map fun cs => (text, cs))
        cs.length cs
      let (last, cs) := match item cs with
        | some (text, cs) => ([text], cs)
        | none => ([], cs)
      (next "]" cs).map fun cs => (items ++ last, cs)

/-- Reads the names of an included template. -/
def includeTag : Reader Piece := fun cs =>
  let names : Reader (List String) := firstOf
    [fun cs => (quoted cs).map fun (name, cs) => ([name], cs), quotedList]
  match (gap cs).bind names with
  | none => none
  | some (names, cs) =>
      match ((gap cs).bind (literal "ignore")).bind fun cs => next "missing" cs with
      | some cs => some (.includeFile names true, cs)
      | none => some (.includeFile names false, cs)

/-- Reads an import of macros. -/
def importTag : Reader Piece := fun cs =>
  match gapQuoted cs with
  | none => none
  | some (file, cs) =>
      match ((gap cs).bind (literal "as")).bind gapName with
      | none => none
      | some (library, cs) => some (.importMacros file library, cs)

/-- Reads an assignment. -/
def assignTag (global : Bool) : Reader Piece := fun cs =>
  match gapName cs with
  | none => none
  | some (target, cs) =>
      ((next "=" cs).bind value).map fun (e, cs) => (.assign target global e, cs)

/-- Reads the value that a parameter has if it is left out. -/
def fallback : Reader Term :=
  firstOf
    [fun cs => (truth cs).map fun (b, cs) => (.bool b, cs),
      fun cs => (quoted cs).map fun (text, cs) => (.string text, cs),
      fun cs => (decimal cs).map fun (x, cs) => (.float x, cs),
      fun cs => (integer cs).map fun (n, cs) => (.int n, cs)]

/-- Reads a parameter of a macro. -/
def parameter : Reader Parameter := fun cs =>
  match nextName cs with
  | none => none
  | some (name, cs) =>
      match (next "=" cs).bind fun cs => fallback (skipGap cs) with
      | some (term, cs) => some (⟨name, some term⟩, cs)
      | none => some (⟨name, none⟩, cs)

/-- Reads the parameters of a macro. -/
def parameters : Reader (List Parameter) := fun cs =>
  match parameter cs with
  | none => some ([], cs)
  | some (first, cs) =>
      let (rest, cs) := many (fun cs => (next "," cs).bind parameter) cs.length cs
      some (first :: rest, cs)

/-- Reads the start of a macro. -/
def macroTag : Reader Piece := fun cs =>
  match gapName cs with
  | none => none
  | some (name, cs) =>
      (inParentheses parameters cs).map fun (parameters, cs) => (.macroStart name parameters, cs)

/-- Reads the start of a loop. -/
def forTag : Reader Piece := fun cs =>
  match gapName cs with
  | none => none
  | some (first, cs) =>
      let (second, cs) := match (next "," cs).bind nextName with
        | some (second, cs) => (some second, cs)
        | none => (none, cs)
      match ((gap cs).bind (literal "in")).bind gap with
      | none => none
      | some cs =>
          (container cs).map fun (e, cs) =>
            (match second with
              | some second => .forStart (some first) second e
              | none => .forStart none first e, cs)

/-- Reads an end that can repeat a name. -/
def namedEnd (piece : Piece) : Reader Piece := fun cs =>
  match nextName cs with
  | some (_, rest) => some (piece, rest)
  | none => some (piece, cs)

/-- Reads a tag behind its keyword. -/
def tagOf (keyword : String) (cs : List Char) : Option (Piece × List Char) :=
  match keyword with
  | "include" => includeTag cs
  | "import" => importTag cs
  | "extends" => (gapQuoted cs).map fun (parent, cs) => (.inherits parent, cs)
  | "set" => assignTag false cs
  | "set_global" => assignTag true cs
  | "block" => (gapName cs).map fun (name, cs) => (.block name, cs)
  | "endblock" => namedEnd .endBlock cs
  | "macro" => macroTag cs
  | "endmacro" => namedEnd .endMacro cs
  | "if" => ((gap cs).bind condition).map fun (e, cs) => (.ifStart e, cs)
  | "elif" => ((gap cs).bind condition).map fun (e, cs) => (.elif e, cs)
  | "else" => some (.otherwise, cs)
  | "endif" => some (.endIf, cs)
  | "for" => forTag cs
  | "endfor" => some (.endFor, cs)
  | "filter" => ((gap cs).bind filter).map fun (call, cs) => (.filterStart call, cs)
  | "endfilter" => some (.endFilter, cs)
  | "break" => some (.breakLoop, cs)
  | "continue" => some (.continueLoop, cs)
  | _ => none

/-! ## Edges of tags -/

/-- Reads the start of a tag that is not a comment and says whether it trims. -/
def opening (mark : Char) (cs : List Char) : Option (Bool × List Char) :=
  match cs with
  | '\x7b' :: m :: '-' :: rest => if m = mark then some (true, rest) else none
  | '\x7b' :: m :: rest => if m = mark then some (false, rest) else none
  | _ => none

/-- Reads the end of a tag and says whether it trims. -/
def closing (mark : Char) (cs : List Char) : Option (Bool × List Char) :=
  match skipGap cs with
  | '-' :: m :: '\x7d' :: rest => if m = mark then some (true, rest) else none
  | m :: '\x7d' :: rest => if m = mark then some (false, rest) else none
  | _ => none

/-- Reads a tag that is only a keyword and says on which sides it trims. -/
def keywordTag (keyword : String) (cs : List Char) : Option ((Bool × Bool) × List Char) :=
  match opening '%' cs with
  | none => none
  | some (before, cs) =>
      ((next keyword cs).bind (closing '%')).map fun (after, cs) => ((before, after), cs)

/-- Reads up to the end of raw text. -/
def rawText : List Char → Option (List Char × (Bool × Bool) × List Char)
  | [] => none
  | c :: rest =>
      match keywordTag "endraw" (c :: rest) with
      | some (trims, rest) => some ([], trims, rest)
      | none => (rawText rest).map fun (text, result) => (c :: text, result)

/-- Trims the start and the end of a text as asked. -/
def trimSides (start stop : Bool) (text : List Char) : List Char :=
  let text := if start then Text.trimStart text else text
  if stop then Text.trimEnd text else text

/-- Reads raw text with the tags around it. -/
def raw : Reader Cut := fun cs =>
  match keywordTag "raw" cs with
  | none => none
  | some ((before, inside), cs) =>
      (rawText cs).map fun (text, (stop, after), cs) =>
        ({ before, after, piece := .raw (trimSides inside stop text) }, cs)

/-- Reads up to the end of a comment and says whether it trims. -/
def commentEnd : List Char → Option (Bool × List Char)
  | '-' :: '#' :: '\x7d' :: rest => some (true, rest)
  | '#' :: '\x7d' :: rest => some (false, rest)
  | _ :: rest => commentEnd rest
  | [] => none

/-- Reads a comment. -/
def comment : Reader Cut := fun cs =>
  match opening '#' cs with
  | none => none
  | some (before, cs) =>
      (commentEnd cs).map fun (after, cs) => ({ before, after, piece := .comment }, cs)

/-- Reads a value that is printed. -/
def output : Reader Cut := fun cs =>
  match opening '\x7b' cs with
  | none => none
  | some (before, cs) =>
      match value cs with
      | none => none
      | some (e, cs) =>
          (closing '\x7d' cs).map fun (after, cs) => ({ before, after, piece := .output e }, cs)

/-- Reads a tag. -/
def tag : Reader Cut := fun cs =>
  match opening '%' cs with
  | none => none
  | some (before, cs) =>
      match nextName cs with
      | none => none
      | some (keyword, cs) =>
          match tagOf keyword cs with
          | none => none
          | some (piece, cs) =>
              (closing '%' cs).map fun (after, cs) => ({ before, after, piece }, cs)

/-- Does a tag or a comment start here? -/
def startsTag : List Char → Bool
  | '\x7b' :: c :: _ => c = '\x7b' || c = '%' || c = '#'
  | _ => false

/-- Takes the text up to the next tag. -/
def plainText : List Char → List Char × List Char
  | [] => ([], [])
  | c :: rest =>
      if startsTag (c :: rest) then ([], c :: rest)
      else
        let (text, rest) := plainText rest
        (c :: text, rest)

/-- Reads one piece. -/
def cut : Reader Cut := fun cs =>
  if startsTag cs then firstOf [comment, output, raw, tag] cs
  else
    let (text, rest) := plainText cs
    some ({ piece := .text text }, rest)

/-- Reads pieces to the end of the text.  The first argument bounds their number. -/
def cuts : Nat → List Char → Option (List Cut)
  | _, [] => some []
  | 0, _ :: _ => none
  | n + 1, c :: rest =>
      match cut (c :: rest) with
      | none => none
      | some (first, rest) => (cuts n rest).map (first :: ·)

end Reader

/-- The pieces with their white space trimmed; `trims` says whether the piece before trims. -/
def settle (trims : Bool) : List Cut → List Piece
  | [] => []
  | cut :: rest =>
      match cut.piece with
      | .text text =>
          let stop := match rest with
            | [] => false
            | following :: _ => following.before
          .text (Reader.trimSides trims stop text) :: settle false rest
      | piece => piece :: settle cut.after rest

/-- The pieces of a template, unless a tag is malformed. -/
def pieces (text : String) : Option (List Piece) :=
  let cs := text.toList
  (Reader.cuts cs.length cs).map (settle false)

end ClientGen.Template
