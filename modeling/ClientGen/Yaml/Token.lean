import ClientGen.Yaml.Scalar

/-!
# Tokens

The marks and scalars of a document, with the structure that indentation expresses made explicit:
`sequenceStart` and `mappingStart` open a block collection where the indentation grows, and
`blockEnd` closes it where the indentation shrinks.

A key needs no mark before it.  Whatever could be a key is remembered until the line ends, and if a
colon follows, the tokens `key` and, if need be, `mappingStart` are put in where it began.
-/

namespace ClientGen.Yaml

/-- A token of a document. -/
inductive Token where
  | version (major minor : Nat)
  /-- The declaration of a handle for tags. -/
  | tagHandle (handle : String)
  | documentStart
  | documentEnd
  | sequenceStart
  | mappingStart
  | blockEnd
  | openBracket
  | closeBracket
  | openBrace
  | closeBrace
  /-- The dash before an item. -/
  | entry
  | comma
  | key
  | value
  | reference (name : String)
  | anchor (name : String)
  /-- A tag, by its handle; one without a handle needs no declaration. -/
  | tag (handle : String)
  | scalar (text : String) (plain : Bool)
deriving DecidableEq, Repr

/-- The place of something that will be a key if a colon follows. -/
structure PossibleKey where
  /-- Must a colon follow? -/
  required : Bool
  /-- The number of tokens before it. -/
  position : Nat
  index : Nat
  line : Nat
  column : Nat
deriving DecidableEq, Repr

/-- What is known while a document is cut into tokens. -/
structure Lexer where
  cursor : Cursor
  /-- The tokens so far, the last one first. -/
  tokens : List Token := []
  /-- The columns of the block collections that are open, the innermost first. -/
  indents : List Nat := []
  /-- The possible key of the innermost collection. -/
  possibleKey : Option PossibleKey := none
  /-- The possible keys around the flow collections that are open, the innermost first. -/
  outerKeys : List (Option PossibleKey) := []
  /-- Can a key begin here? -/
  keyAllowed : Bool := true

namespace Lexer

/-- Is a flow collection open? -/
def inFlow (l : Lexer) : Bool :=
  !l.outerKeys.isEmpty

/-- One more than the column of the innermost block collection, zero if there is none. -/
def indent (l : Lexer) : Nat :=
  match l.indents with
  | [] => 0
  | column :: _ => column + 1

/-- Adds a token. -/
def emit (l : Lexer) (token : Token) : Lexer :=
  { l with tokens := token :: l.tokens }

/-- Puts a token in behind the first `position` tokens. -/
def insertAt (l : Lexer) (position : Nat) (token : Token) : Lexer :=
  let later := l.tokens.length - position
  { l with tokens := l.tokens.take later ++ token :: l.tokens.drop later }

/-- Passes over the characters of a mark and adds its token. -/
def mark (l : Lexer) (length : Nat) (token : Token) : Lexer :=
  { l with cursor := l.cursor.skip length }.emit token

/-! ## Indentation -/

/-- Closes the block collections that lie right of a column, all of them if there is none. -/
def closeBlocksIn (column : Option Nat) : List Nat → Lexer → Lexer
  | [], l => { l with indents := [] }
  | i :: outer, l =>
      if column.all (i > ·) then closeBlocksIn column outer (l.emit .blockEnd)
      else { l with indents := i :: outer }

/-- Closes the block collections that lie right of a column, unless a flow collection is open. -/
def closeBlocks (l : Lexer) (column : Option Nat) : Lexer :=
  if l.inFlow then l else closeBlocksIn column l.indents l

/-- Opens a block collection if the column lies right of the innermost one. -/
def openBlock (l : Lexer) (column position : Nat) (token : Token) : Lexer :=
  if !l.inFlow && l.indent ≤ column then
    { l with indents := column :: l.indents }.insertAt position token
  else l

/-! ## Possible keys -/

/-- How far a colon may be from the start of its key. -/
def keyReach : Nat := 1024

/-- Has the line of a possible key ended, or is it too far away? -/
def isStale (c : Cursor) (k : PossibleKey) : Bool :=
  k.line < c.line || k.index + keyReach < c.index

/-- Forgets a possible key if it is stale; a required one must not be. -/
def refresh (c : Cursor) : Option PossibleKey → Option (Option PossibleKey)
  | none => some none
  | some k =>
      if isStale c k then (if k.required then none else some none) else some (some k)

/-- Forgets the possible keys that are stale. -/
def refreshKeys (l : Lexer) : Option Lexer :=
  match refresh l.cursor l.possibleKey, l.outerKeys.mapM (refresh l.cursor) with
  | some possibleKey, some outerKeys => some { l with possibleKey, outerKeys }
  | _, _ => none

/-- Forgets the possible key of the innermost collection, which must not be required. -/
def dropKey (l : Lexer) : Option Lexer :=
  match l.possibleKey with
  | some k => if k.required then none else some { l with possibleKey := none }
  | none => some l

/-- Remembers what begins here as a possible key.  At the column of a block mapping nothing but a
key can stand. -/
def saveKey (l : Lexer) : Option Lexer :=
  if l.keyAllowed then
    l.dropKey.map fun l =>
      { l with
        possibleKey := some
          { required := !l.inFlow && l.indent = l.cursor.column + 1
            position := l.tokens.length
            index := l.cursor.index
            line := l.cursor.line
            column := l.cursor.column } }
  else some l

/-! ## Between tokens -/

/-- Passes over white space, comments and line breaks.  A tab is no indentation, so where a key can
begin in a block it ends the white space.  A mark of byte order takes one column at the start. -/
def skipBlank : Nat → Lexer → Lexer
  | 0, l => l
  | fuel + 1, l =>
      let tabs := l.inFlow || !l.keyAllowed
      let c := if l.cursor.index = 0 && l.cursor.startsWith ['\ufeff'] then l.cursor.skip 1
        else l.cursor
      let c := (c.readWhile fun ch => ch = ' ' || (tabs && ch = '\t')).2
      let c := if c.startsWith ['#'] then (c.readWhile (!isBreak ·)).2 else c
      match c.readBreak? with
      | some (_, c) => skipBlank fuel { l with cursor := c, keyAllowed := l.keyAllowed || !l.inFlow }
      | none => { l with cursor := c }

/-! ## Directives -/

/-- Reads a number of at most nine digits. -/
def readNumber (c : Cursor) : Option (Nat × Cursor) :=
  let (digits, c) := c.readWhile Char.isDigit
  if digits.isEmpty || 9 < digits.length then none
  else some (digits.foldl (fun n d => n * 10 + (d.toNat - '0'.toNat)) 0, c)

/-- Reads the numbers of a version. -/
def readVersion (c : Cursor) : Option (Token × Cursor) :=
  match readNumber (c.readWhile isSpace).2 with
  | none => none
  | some (major, c) =>
      if c.startsWith ['.'] then
        (readNumber (c.skip 1)).map fun (minor, c) => (.version major minor, c)
      else none

/-- Reads the handle of a tag.  A handle that is declared ends with an exclamation mark. -/
def readHandle (declared : Bool) (c : Cursor) : Option (List Char × Cursor) :=
  if c.startsWith ['!'] then
    let (name, c) := (c.skip 1).readWhile isNameChar
    if c.startsWith ['!'] then some ('!' :: name ++ ['!'], c.skip 1)
    else if declared && !name.isEmpty then none
    else some ('!' :: name, c)
  else none

/-- Can the character stand in a tag as it is?  `whole` allows the characters that structure flow
collections. -/
def isTagChar (whole : Bool) (c : Char) : Bool :=
  isNameChar c || c ∈ [';', '/', '?', ':', '@', '&', '=', '+', '$', '.', '!', '~', '*', '\'', '(', ')'] ||
    (whole && c ∈ [',', '[', ']'])

/-- Reads a byte written as a percent sign and two digits. -/
def readByte (c : Cursor) : Option (Nat × Cursor) :=
  match c.rest with
  | '%' :: a :: b :: _ =>
      match hexValue? a, hexValue? b with
      | some a, some b => some (a * 16 + b, c.skip 3)
      | _, _ => none
  | _ => none

/-- The number of bytes that follow the first byte of a character. -/
def followers? (byte : Nat) : Option Nat :=
  if byte < 0x80 then some 0
  else if byte / 32 = 6 then some 1
  else if byte / 16 = 14 then some 2
  else if byte / 8 = 30 then some 3
  else none

/-- Reads the bytes that continue a character. -/
def readFollowers : Nat → Cursor → Option Cursor
  | 0, c => some c
  | n + 1, c =>
      match readByte c with
      | some (byte, c) => if byte / 64 = 2 then readFollowers n c else none
      | none => none

/-- Reads the characters of a tag and counts them.  The first argument bounds their number. -/
def readTagChars (whole : Bool) : Nat → Cursor → Option (Nat × Cursor)
  | 0, c => some (0, c)
  | fuel + 1, c =>
      match c.rest with
      | [] => some (0, c)
      | ch :: _ =>
          if ch = '%' then
            match readByte c with
            | none => none
            | some (byte, c) =>
                match (followers? byte).bind (readFollowers · c) with
                | none => none
                | some c => (readTagChars whole fuel c).map fun (n, c) => (n + 1, c)
          else if isTagChar whole ch then
            (readTagChars whole fuel (c.skip 1)).map fun (n, c) => (n + 1, c)
          else some (0, c)

/-- Reads the characters of a tag, of which there is at least one. -/
def readTagText (whole : Bool) (c : Cursor) : Option Cursor :=
  match readTagChars whole c.rest.length c with
  | some (0, _) => none
  | some (_, c) => some c
  | none => none

/-- Reads the declaration of a handle. -/
def readTagDeclaration (c : Cursor) : Option (Token × Cursor) :=
  match readHandle true (c.readWhile isSpace).2 with
  | none => none
  | some (handle, c) =>
      if c.rest.head?.all (!isSpace ·) then none
      else
        match readTagText true (c.readWhile isSpace).2 with
        | none => none
        | some c => if c.blankAt 0 then some (.tagHandle (String.ofList handle), c) else none

/-- Reads a directive with the rest of its line. -/
def readDirective (l : Lexer) : Option Lexer :=
  let (name, c) := (l.cursor.skip 1).readWhile isNameChar
  if !c.blankAt 0 then none
  else
    let read :=
      if name = ['Y', 'A', 'M', 'L'] then readVersion c
      else if name = ['T', 'A', 'G'] then readTagDeclaration c
      else none
    match read with
    | none => none
    | some (token, c) =>
        c.skipToBreak.map fun c => { l with cursor := c.skipBreak }.emit token

/-! ## Names and tags -/

/-- Reads the name of an anchor or an alias behind its mark. -/
def readName (c : Cursor) : Option (String × Cursor) :=
  let (name, c) := (c.skip 1).readWhile isNameChar
  let ends := c.blankAt 0 ||
    c.rest.head?.any (· ∈ ['?', ':', ',', ']', '\x7d', '%', '@', '\x60'])
  if name.isEmpty || !ends then none else some (String.ofList name, c)

/-- Reads a tag and gives its handle. -/
def readTag (inFlow : Bool) (c : Cursor) : Option (String × Cursor) :=
  let read : Option (String × Cursor) :=
    if c.startsWith ['!', '<'] then
      match readTagText true (c.skip 2) with
      | some c => if c.startsWith ['>'] then some ("", c.skip 1) else none
      | none => none
    else
      match readHandle false c with
      | none => none
      | some (handle, c) =>
          if 1 < handle.length && handle.getLast? = some '!' then
            (readTagText false c).map fun c => (String.ofList handle, c)
          else
            (readTagChars false c.rest.length c).map fun (n, c) =>
              (if handle.length + n = 1 then "" else "!", c)
  match read with
  | none => none
  | some (handle, c) =>
      if c.blankAt 0 || (inFlow && c.startsWith [',']) then some (handle, c) else none

/-! ## Tokens one by one -/

/-- Adds a token whose characters have been read. -/
def advance (l : Lexer) (c : Cursor) (token : Token) : Lexer :=
  { l with cursor := c }.emit token

/-- A mark between documents, or a directive: everything open is closed. -/
def betweenDocuments (l : Lexer) : Option Lexer :=
  (l.closeBlocks none).dropKey.map fun l => { l with keyAllowed := false }

/-- An opening bracket or brace. -/
def openFlow (l : Lexer) (token : Token) : Option Lexer :=
  l.saveKey.map fun l =>
    { l with
      outerKeys := l.possibleKey :: l.outerKeys
      possibleKey := none
      keyAllowed := true }.mark 1 token

/-- A closing bracket or brace. -/
def closeFlow (l : Lexer) (token : Token) : Option Lexer :=
  l.dropKey.map fun l =>
    let l := match l.outerKeys with
      | [] => l
      | possibleKey :: outerKeys => { l with possibleKey, outerKeys }
    { l with keyAllowed := false }.mark 1 token

/-- A comma in a flow collection. -/
def flowComma (l : Lexer) : Option Lexer :=
  l.dropKey.map fun l => { l with keyAllowed := true }.mark 1 .comma

/-- The dash before an item of a block sequence. -/
def blockEntry (l : Lexer) : Option Lexer :=
  if !l.inFlow && !l.keyAllowed then none
  else
    (l.openBlock l.cursor.column l.tokens.length .sequenceStart).dropKey.map fun l =>
      { l with keyAllowed := true }.mark 1 .entry

/-- The question mark before a key. -/
def keyMark (l : Lexer) : Option Lexer :=
  if !l.inFlow && !l.keyAllowed then none
  else
    (l.openBlock l.cursor.column l.tokens.length .mappingStart).dropKey.map fun l =>
      { l with keyAllowed := !l.inFlow }.mark 1 .key

/-- The colon before a value, which makes a key of what could be one. -/
def valueMark (l : Lexer) : Option Lexer :=
  match l.possibleKey with
  | some k =>
      let l := (l.insertAt k.position .key).openBlock k.column k.position .mappingStart
      some ({ l with possibleKey := none, keyAllowed := false }.mark 1 .value)
  | none =>
      if !l.inFlow && !l.keyAllowed then none
      else
        let l := l.openBlock l.cursor.column l.tokens.length .mappingStart
        some ({ l with keyAllowed := !l.inFlow }.mark 1 .value)

/-- A name or a tag, which can stand before a key. -/
def beforeNode (l : Lexer) (read : Option (String × Cursor)) (token : String → Token) :
    Option Lexer :=
  match l.saveKey, read with
  | some l, some (text, c) => some ({ l with keyAllowed := false }.advance c (token text))
  | _, _ => none

/-- A block scalar. -/
def blockScalar (l : Lexer) (folded : Bool) : Option Lexer :=
  match l.dropKey, readBlock folded l.indent (l.cursor.skip 1) with
  | some l, some (text, c) =>
      some ({ l with keyAllowed := true }.advance c (.scalar (String.ofList text) false))
  | _, _ => none

/-- A quoted scalar. -/
def quotedScalar (l : Lexer) (quote : Char) : Option Lexer :=
  match l.saveKey, readQuoted quote l.cursor with
  | some l, some (text, c) =>
      some ({ l with keyAllowed := false }.advance c (.scalar (String.ofList text) false))
  | _, _ => none

/-- A plain scalar.  If it has passed a line break, a key can follow. -/
def plainScalar (l : Lexer) : Option Lexer :=
  match l.saveKey, readPlain l.inFlow l.indent l.cursor with
  | some l, some (text, broken, c) =>
      some ({ l with keyAllowed := broken }.advance c (.scalar (String.ofList text) true))
  | _, _ => none

/-- Can a plain scalar start with this character? -/
def startsPlain (l : Lexer) (ch : Char) : Bool :=
  if ch = '-' then !(l.cursor.rest[1]?.any isSpace)
  else if ch = '?' || ch = ':' then !l.inFlow && !l.cursor.blankAt 1
  else
    !isSpace ch &&
      !(ch ∈ [',', '[', ']', '\x7b', '\x7d', '#', '&', '*', '!', '|', '>', '\'', '"', '%', '@',
        '\x60'])

/-- Reads the token that starts with a character. -/
def readToken (l : Lexer) (ch : Char) : Option Lexer :=
  let c := l.cursor
  if c.column = 0 && ch = '%' then l.betweenDocuments.bind readDirective
  else if c.atDocumentMark then
    l.betweenDocuments.map (·.mark 3 (if ch = '-' then .documentStart else .documentEnd))
  else if ch = '[' then l.openFlow .openBracket
  else if ch = '\x7b' then l.openFlow .openBrace
  else if ch = ']' then l.closeFlow .closeBracket
  else if ch = '\x7d' then l.closeFlow .closeBrace
  else if ch = ',' then l.flowComma
  else if ch = '-' && c.blankAt 1 then l.blockEntry
  else if ch = '?' && (l.inFlow || c.blankAt 1) then l.keyMark
  else if ch = ':' && (l.inFlow || c.blankAt 1) then l.valueMark
  else if ch = '*' then l.beforeNode (readName c) .reference
  else if ch = '&' then l.beforeNode (readName c) .anchor
  else if ch = '!' then l.beforeNode (readTag l.inFlow c) .tag
  else if ch = '|' && !l.inFlow then l.blockScalar false
  else if ch = '>' && !l.inFlow then l.blockScalar true
  else if ch = '\'' || ch = '"' then l.quotedScalar ch
  else if l.startsPlain ch then l.plainScalar
  else none

/-- Closes what is open at the end of the text. -/
def finish (l : Lexer) : Option (List Token) :=
  l.betweenDocuments.map (·.tokens.reverse)

/-- Reads tokens to the end of the text.  The first argument bounds their number. -/
def readTokens : Nat → Lexer → Option (List Token)
  | 0, _ => none
  | fuel + 1, l =>
      match (l.skipBlank (l.cursor.rest.length + 1)).refreshKeys with
      | none => none
      | some l =>
          let l := l.closeBlocks (some l.cursor.column)
          match l.cursor.rest with
          | [] => l.finish
          | ch :: _ => (l.readToken ch).bind (readTokens fuel)

end Lexer

/-- The tokens of a text, unless it is malformed. -/
def tokens (text : String) : Option (List Token) :=
  let cs := text.toList
  if cs.all isAllowed then Lexer.readTokens (cs.length + 1) { cursor := { rest := cs } } else none

end ClientGen.Yaml
