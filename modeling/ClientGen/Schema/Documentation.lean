import ClientGen.Api.SymbolTable
import ClientGen.Schema.DocPath
import ClientGen.Text.Lines

/-!
# Attaching comments

The comments of a file become the documentation of the elements they stand before.  A comment for an
element that the symbol table does not have is dropped; of several comments for one element the last
stays.
-/

namespace ClientGen

/-! ## The text of a comment -/

/-- Drops one space after every line feed. -/
def dropSpaceAfterBreak : List Char → List Char
  | [] => []
  | '\n' :: ' ' :: rest => '\n' :: dropSpaceAfterBreak rest
  | c :: rest => c :: dropSpaceAfterBreak rest

/-- A text without a given last character, if it ends with it. -/
def dropLast (c : Char) (cs : List Char) : List Char :=
  (Text.dropEnd? [c] cs).getD cs

/-- The text of a comment: without the space that follows the comment mark on every line and without
the line feed at the end. -/
def commentText (comment : List Char) : List Char :=
  dropLast '\n' (dropSpaceAfterBreak ((Text.dropStart? [' '] comment).getD comment))

/-- The text of a comment. -/
def trimComment (comment : String) : String :=
  String.ofList (commentText comment.toList)

/-! ## Attaching -/

/-- Changes the first item that passes a test. -/
def modifyFirst {α : Type} (p : α → Bool) (f : α → α) : List α → List α
  | [] => []
  | a :: rest => if p a then f a :: rest else a :: modifyFirst p f rest

/-- Gives the element that a comment belongs to its documentation. -/
def SymbolTable.document (t : SymbolTable) (target : DocTarget) (text : String) : SymbolTable :=
  match target with
  | .message id => t.modifyMessage id fun m => { m with documentation := text }
  | .field message field =>
      t.modifyMessage message fun m =>
        { m with
          fields := modifyFirst (·.id = field) (fun f => { f with documentation := text }) m.fields }
  | .oneOf message oneOf =>
      t.modifyMessage message fun m =>
        { m with
          oneOfs := modifyFirst (·.id = oneOf) (fun o => { o with documentation := text }) m.oneOfs }
  | .enum id => t.modifyEnum id fun e => { e with documentation := text }
  | .enumValue enum value =>
      t.modifyEnum enum fun e =>
        { e with
          values :=
            modifyFirst (·.name = value) (fun v => { v with documentation := text }) e.values }
  | .service id => t.modifyService id fun s => { s with documentation := text }
  | .method service method =>
      t.modifyService service fun s =>
        { s with
          methods :=
            modifyFirst (·.name = method) (fun m => { m with documentation := text }) s.methods }

/-- The comments of a file. -/
def FileDescriptor.locations (file : FileDescriptor) : List Location :=
  match file.sourceInfo with
  | some info => info.locations
  | none => []

/-- Attaches one comment of a file, unless it is empty or belongs to no element. -/
def SymbolTable.documentLocation (file : FileDescriptor) (t : SymbolTable) (l : Location) :
    SymbolTable :=
  let comment := textOf l.leadingComments
  if comment.isEmpty then t
  else
    match file.resolve l.path with
    | some target => t.document target (trimComment comment)
    | none => t

/-- Attaches the comments of a file in their order. -/
def SymbolTable.documentFile (t : SymbolTable) (file : FileDescriptor) : SymbolTable :=
  file.locations.foldl (documentLocation file) t

end ClientGen
