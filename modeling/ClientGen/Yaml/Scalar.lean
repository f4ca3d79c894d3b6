import ClientGen.Yaml.Cursor

/-!
# Scalars

The texts of a document: plain, in single or double quotes, or in a block of lines.  White space
between the parts of a scalar that is not a block is a `Gap`, which is kept on one line and folded
over several.
-/

namespace ClientGen.Yaml

/-! ## Gaps -/

/-- The white space between two parts of a scalar. -/
inductive Gap where
  /-- Spaces and tabs on one line. -/
  | spaces (text : List Char)
  /-- The first line break, unless it was escaped, and those after it. -/
  | breaks (first : Option Char) (more : List Char)
deriving DecidableEq, Repr

namespace Gap

/-- What the gap stands for: one break is a space, of several the first is left out. -/
def text : Gap → List Char
  | spaces text => text
  | breaks (some '\n') [] => [' ']
  | breaks (some '\n') more => more
  | breaks (some first) more => first :: more
  | breaks none more => more

/-- Is there a line break in the gap? -/
def isBroken : Gap → Bool
  | spaces _ => false
  | breaks _ _ => true

/-- The gap with another space or tab at its end. -/
def addSpace (c : Char) : Gap → Gap
  | spaces text => spaces (text ++ [c])
  | gap => gap

/-- The gap with another line break at its end. -/
def addBreak (b : Char) : Gap → Gap
  | spaces _ => breaks (some b) []
  | breaks first more => breaks first (more ++ [b])

/-- Reads on in a gap.  After a line break no tab may stand left of the column `indent`.  The first
argument bounds the number of characters. -/
def readMore (indent : Nat) : Nat → Gap → Cursor → Option (Gap × Cursor)
  | 0, gap, c => some (gap, c)
  | fuel + 1, gap, c =>
      match c.rest with
      | [] => some (gap, c)
      | ch :: _ =>
          if isSpace ch then
            if gap.isBroken && ch = '\t' && c.column < indent then none
            else readMore indent fuel (gap.addSpace ch) (c.skip 1)
          else
            match c.readBreak? with
            | some (b, c) => readMore indent fuel (gap.addBreak b) c
            | none => some (gap, c)

/-- Reads a gap that has begun. -/
def read (indent : Nat) (gap : Gap) (c : Cursor) : Option (Gap × Cursor) :=
  readMore indent c.rest.length gap c

end Gap

/-! ## Plain scalars -/

/-- The brackets and the comma, which structure flow collections. -/
def isFlowMark (c : Char) : Bool :=
  c ∈ [',', '[', ']', '\x7b', '\x7d']

/-- How a run of characters of a plain scalar goes on. -/
inductive PlainStep where
  | go
  | stop
  | fault

/-- Looks at the next characters of a plain scalar. -/
def plainStep (inFlow : Bool) (c : Cursor) : PlainStep :=
  match c.rest with
  | [] => .stop
  | ':' :: rest =>
      let next := rest.headD ' '
      if inFlow && (isFlowMark next || next = '?') then .fault
      else if isSpace next || isBreak next then .stop
      else .go
  | ch :: _ =>
      if isSpace ch || isBreak ch || (inFlow && isFlowMark ch) then .stop else .go

/-- Reads the characters of a plain scalar up to white space or an indicator. -/
def readPlainRun (inFlow : Bool) : Nat → Cursor → Option (List Char × Cursor)
  | 0, c => some ([], c)
  | fuel + 1, c =>
      match plainStep inFlow c with
      | .fault => none
      | .stop => some ([], c)
      | .go =>
          (readPlainRun inFlow fuel (c.skip 1)).map fun (text, after) =>
            (c.rest.take 1 ++ text, after)

/-- Reads runs and the gaps between them.  A gap counts only if a run follows it, and the scalar
ends at a comment, at a document mark, and on a line that is not indented far enough. -/
def readPlainRuns (inFlow : Bool) (indent : Nat) :
    Nat → Gap → Cursor → Option (List Char × Gap × Cursor)
  | 0, gap, c => some ([], gap, c)
  | fuel + 1, gap, c =>
      if c.atDocumentMark || c.startsWith ['#'] then some ([], gap, c)
      else
        match readPlainRun inFlow c.rest.length c with
        | none => none
        | some (run, c) =>
            let pending := if run.isEmpty then gap else .spaces []
            let text := if run.isEmpty then [] else gap.text ++ run
            match c.rest with
            | [] => some (text, pending, c)
            | ch :: _ =>
                if isSpace ch || isBreak ch then
                  match pending.read indent c with
                  | none => none
                  | some (gap, c) =>
                      if !inFlow && c.column < indent then some (text, gap, c)
                      else
                        (readPlainRuns inFlow indent fuel gap c).map fun (more, gap, c) =>
                          (text ++ more, gap, c)
                else some (text, pending, c)

/-- Reads a plain scalar.  Also says whether line breaks were passed after its end. -/
def readPlain (inFlow : Bool) (indent : Nat) (c : Cursor) :
    Option (List Char × Bool × Cursor) :=
  (readPlainRuns inFlow indent (c.rest.length + 1) (.spaces []) c).map fun (text, gap, c) =>
    (text, gap.isBroken, c)

/-! ## Quoted scalars -/

/-- The value of a hexadecimal digit. -/
def hexValue? (c : Char) : Option Nat :=
  if c.isDigit then some (c.toNat - '0'.toNat)
  else if 'a' ≤ c && c ≤ 'f' then some (c.toNat - 'a'.toNat + 10)
  else if 'A' ≤ c && c ≤ 'F' then some (c.toNat - 'A'.toNat + 10)
  else none

/-- The number of some hexadecimal digits. -/
def hexNumber (digits : List Char) : Option Nat :=
  digits.foldlM (fun n c => (hexValue? c).map (n * 16 + ·)) 0

/-- The character of a number, unless it is a surrogate or beyond the last character. -/
def charOfNumber (n : Nat) : Option Char :=
  if n < 0xd800 || (0xdfff < n && n ≤ 0x10ffff) then some (Char.ofNat n) else none

/-- The character of an escape of one letter. -/
def letterEscape? : Char → Option Char
  | '0' => some '\x00'
  | 'a' => some '\x07'
  | 'b' => some '\x08'
  | 't' => some '\t'
  | '\t' => some '\t'
  | 'n' => some '\n'
  | 'v' => some '\x0b'
  | 'f' => some '\x0c'
  | 'r' => some '\r'
  | 'e' => some '\x1b'
  | ' ' => some ' '
  | '"' => some '"'
  | '/' => some '/'
  | '\\' => some '\\'
  | 'N' => some '\u0085'
  | '_' => some '\u00a0'
  | 'L' => some '\u2028'
  | 'P' => some '\u2029'
  | _ => none

/-- The number of digits after the letter of an escape by number. -/
def escapeDigits? : Char → Option Nat
  | 'x' => some 2
  | 'u' => some 4
  | 'U' => some 8
  | _ => none

/-- Reads an escape behind its backslash. -/
def readEscape (c : Cursor) : Option (Char × Cursor) :=
  match c.rest with
  | [] => none
  | letter :: rest =>
      match letterEscape? letter with
      | some ch => some (ch, c.skip 1)
      | none =>
          match escapeDigits? letter with
          | none => none
          | some count =>
              let digits := rest.take count
              if digits.length < count then none
              else
                ((hexNumber digits).bind charOfNumber).map fun ch => (ch, c.skip (count + 1))

/-- Reads a run of a quoted scalar up to white space or the closing quote.  The flag says that an
escaped line break ended the run. -/
def readQuotedRun (quote : Char) : Nat → Cursor → Option (List Char × Bool × Cursor)
  | 0, c => some ([], false, c)
  | fuel + 1, c =>
      match c.rest with
      | [] => some ([], false, c)
      | ch :: rest =>
          if isSpace ch || isBreak ch then some ([], false, c)
          else if ch = quote then
            if quote = '\'' && rest.head? = some '\'' then
              (readQuotedRun quote fuel (c.skip 2)).map fun (text, escaped, after) =>
                ('\'' :: text, escaped, after)
            else some ([], false, c)
          else if quote = '"' && ch = '\\' then
            match (c.skip 1).readBreak? with
            | some (_, c) => some ([], true, c)
            | none =>
                match readEscape (c.skip 1) with
                | none => none
                | some (ch, c) =>
                    (readQuotedRun quote fuel c).map fun (text, escaped, after) =>
                      (ch :: text, escaped, after)
          else
            (readQuotedRun quote fuel (c.skip 1)).map fun (text, escaped, after) =>
              (ch :: text, escaped, after)

/-- Reads a quoted scalar behind its opening quote. -/
def readQuotedRuns (quote : Char) : Nat → Cursor → Option (List Char × Cursor)
  | 0, _ => none
  | fuel + 1, c =>
      if c.atDocumentMark || c.rest.isEmpty then none
      else
        match readQuotedRun quote c.rest.length c with
        | none => none
        | some (run, escaped, c) =>
            if c.rest.head? = some quote then some (run, c.skip 1)
            else
              match Gap.read 0 (if escaped then .breaks none [] else .spaces []) c with
              | none => none
              | some (gap, c) =>
                  (readQuotedRuns quote fuel c).map fun (more, c) => (run ++ gap.text ++ more, c)

/-- Reads a quoted scalar. -/
def readQuoted (quote : Char) (c : Cursor) : Option (List Char × Cursor) :=
  readQuotedRuns quote (c.rest.length + 1) (c.skip 1)

/-! ## Block scalars -/

/-- What happens to the line breaks at the end of a block. -/
inductive Chomping where
  | strip
  | clip
  | keep
deriving DecidableEq, Repr

/-- Reads the sign of a block's header. -/
def readChomping (c : Cursor) : Option (Chomping × Cursor) :=
  match c.rest with
  | '+' :: _ => some (.keep, c.skip 1)
  | '-' :: _ => some (.strip, c.skip 1)
  | _ => none

/-- Reads the digit of a block's header, which is not zero. -/
def readIncrement (c : Cursor) : Option (Option (Nat × Cursor)) :=
  match c.rest with
  | d :: _ =>
      if d.isDigit then
        if d = '0' then none else some (some (d.toNat - '0'.toNat, c.skip 1))
      else some none
  | [] => some none

/-- Reads the header of a block: a sign and a digit in any order, both optional. -/
def readHeader (c : Cursor) : Option (Chomping × Option Nat × Cursor) :=
  match readChomping c with
  | some (chomping, c) =>
      (readIncrement c).map fun
        | some (n, c) => (chomping, some n, c)
        | none => (chomping, none, c)
  | none =>
      (readIncrement c).map fun
        | some (n, c) =>
            match readChomping c with
            | some (chomping, c) => (chomping, some n, c)
            | none => (.clip, some n, c)
        | none => (.clip, none, c)

/-- Reads indentation and empty lines.  While the indentation of the block is not known (`none`), any
number of spaces is indentation, and the widest line decides.  The result has the breaks and the
widest indentation. -/
def readIndentation (indent : Option Nat) : Nat → Nat → Cursor → Option (List Char × Nat × Cursor)
  | 0, widest, c => some ([], widest, c)
  | fuel + 1, widest, c =>
      let spaces := (c.rest.takeWhile (· = ' ')).length
      let c := c.skip (match indent with
        | some n => min spaces (n - c.column)
        | none => spaces)
      let widest := max widest c.column
      let undecided := match indent with
        | some n => decide (c.column < n)
        | none => true
      if undecided && c.startsWith ['\t'] then none
      else
        match c.readBreak? with
        | some (b, c) =>
            (readIndentation indent fuel widest c).map fun (breaks, widest, c) =>
              (b :: breaks, widest, c)
        | none => some ([], widest, c)

/-- What joins a line of a block to the one before it: folding turns a single break into a space,
unless a line around it starts with white space. -/
def joint (folded : Bool) (first : List Char) (more : List Char) (indented : Bool) : List Char :=
  if folded && first = ['\n'] && !indented then
    if more.isEmpty then [' '] else more
  else first ++ more

/-- Reads the lines of a block.  `first` is the break before the line, `more` are those of the empty
lines before it, and `indented` says whether the line before it starts with white space. -/
def readBlockLines (folded : Bool) (indent : Nat) (chomping : Chomping) :
    Nat → List Char → List Char → Bool → Cursor → Option (List Char × Cursor)
  | 0, _, _, _, _ => none
  | fuel + 1, first, more, indented, c =>
      match c.rest with
      | [] => some (tail first more, c)
      | ch :: _ =>
          if c.column ≠ indent then some (tail first more, c)
          else
            let starts := isSpace ch
            let joined := joint folded first more (indented || starts)
            let (line, c) := c.readWhile (!isBreak ·)
            let (first, c) := match c.readBreak? with
              | some (b, c) => ([b], c)
              | none => ([], c)
            match readIndentation (some indent) (c.rest.length + 1) 0 c with
            | none => none
            | some (more, _, c) =>
                (readBlockLines folded indent chomping fuel first more starts c).map
                  fun (text, c) => (joined ++ line ++ text, c)
where
  /-- The line breaks that stay at the end of the block. -/
  tail (first more : List Char) : List Char :=
    match chomping with
    | .strip => []
    | .clip => first
    | .keep => first ++ more

/-- Reads a block behind its indicator.  `parent` is the indentation around it, one more than the
column, zero outside of all collections. -/
def readBlock (folded : Bool) (parent : Nat) (c : Cursor) : Option (List Char × Cursor) :=
  match readHeader c with
  | none => none
  | some (chomping, increment, c) =>
      match c.skipToBreak with
      | none => none
      | some c =>
          let c := c.skipBreak
          let given := increment.map (parent - 1 + ·)
          match readIndentation given (c.rest.length + 1) 0 c with
          | none => none
          | some (breaks, widest, c) =>
              let indent := given.getD (max 1 (max parent widest))
              readBlockLines folded indent chomping (c.rest.length + 1) [] breaks false c

end ClientGen.Yaml
