/-!
# Reading a document character by character

A place in a document, with the line and the column that indentation is measured by.  Line breaks
come in five spellings; a carriage return and a line feed together are one break.
-/

namespace ClientGen.Yaml

/-! ## Classes of characters -/

/-- Does the character end a line? -/
def isBreak (c : Char) : Bool :=
  c = '\n' || c = '\r' || c = '\u0085' || c = '\u2028' || c = '\u2029'

/-- Is the character a space or a tab? -/
def isSpace (c : Char) : Bool :=
  c = ' ' || c = '\t'

/-- Can the character stand in a name? -/
def isNameChar (c : Char) : Bool :=
  c.isAlphanum || c = '_' || c = '-'

/-- Can the character stand in a document at all?  Controls cannot, nor can the two noncharacters at
the end of the first plane. -/
def isAllowed (c : Char) : Bool :=
  let n := c.toNat
  n = 0x9 || n = 0xa || n = 0xd || (0x20 ≤ n && n ≤ 0x7e) || n = 0x85 ||
    (0xa0 ≤ n && n ≤ 0xfffd) || 0x10000 ≤ n

/-! ## Cursors -/

/-- A place in a document. -/
structure Cursor where
  /-- What is still to be read. -/
  rest : List Char
  /-- How many characters have been read. -/
  index : Nat := 0
  line : Nat := 0
  column : Nat := 0
deriving DecidableEq, Repr

namespace Cursor

/-- Passes over characters that end no line. -/
def skip (c : Cursor) (n : Nat) : Cursor :=
  { c with rest := c.rest.drop n, index := c.index + n, column := c.column + n }

/-- Reads a line break and says which character stands for it in a scalar. -/
def readBreak? (c : Cursor) : Option (Char × Cursor) :=
  match c.rest with
  | [] => none
  | '\r' :: '\n' :: rest => some ('\n', ⟨rest, c.index + 2, c.line + 1, 0⟩)
  | b :: rest =>
      if isBreak b then
        some (if b = '\u2028' || b = '\u2029' then b else '\n', ⟨rest, c.index + 1, c.line + 1, 0⟩)
      else none

/-- The cursor behind a line break, if there is one. -/
def skipBreak (c : Cursor) : Cursor :=
  match c.readBreak? with
  | some (_, c) => c
  | none => c

/-- Reads the characters up to the first that fails a test, which holds for no line break. -/
def readWhile (p : Char → Bool) (c : Cursor) : List Char × Cursor :=
  let text := c.rest.takeWhile p
  (text, c.skip text.length)

/-- Does the document begin with this text here? -/
def startsWith (c : Cursor) (text : List Char) : Bool :=
  text.isPrefixOf c.rest

/-- Is the character after the next `n` ones white space, or is there none? -/
def blankAt (c : Cursor) (n : Nat) : Bool :=
  match c.rest[n]? with
  | none => true
  | some ch => isSpace ch || isBreak ch

/-- Does a line begin here that starts or ends a document? -/
def atDocumentMark (c : Cursor) : Bool :=
  c.column = 0 && (c.startsWith ['-', '-', '-'] || c.startsWith ['.', '.', '.']) && c.blankAt 3

/-- Passes over spaces, tabs and a comment to the end of the line. -/
def skipToBreak (c : Cursor) : Option Cursor :=
  let c := (c.readWhile isSpace).2
  let c := if c.startsWith ['#'] then (c.readWhile (!isBreak ·)).2 else c
  match c.rest with
  | [] => some c
  | b :: _ => if isBreak b then some c else none

end Cursor

end ClientGen.Yaml
