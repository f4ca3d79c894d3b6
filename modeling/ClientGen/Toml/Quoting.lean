/-!
# Writing strings and keys in TOML

A string can be written between double quotes, in which a backslash starts an escape, or between
apostrophes, in which nothing is escaped; both also exist with three delimiters and can then go over
several lines.  The first form that needs no escapes is taken; if there is none, escapes are
written.

A key is written bare if it can be.
-/

namespace ClientGen.Toml

/-- Can the character only be written as an escape? -/
def isControlCode (c : Char) : Bool :=
  (c.toNat ≤ 0x1f && c ≠ '\t' && c ≠ '\n') || c.toNat = 0x7f

/-- The length of the longest run of a character, when a run of some length comes before. -/
def longestRunFrom (c : Char) : Nat → List Char → Nat
  | n, [] => n
  | n, d :: cs => if d = c then longestRunFrom c (n + 1) cs else max n (longestRunFrom c 0 cs)

/-- The length of the longest run of a character. -/
def longestRun (c : Char) (cs : List Char) : Nat :=
  longestRunFrom c 0 cs

/-- The forms in which a string can be written. -/
inductive Form where
  | basic
  | literal
  | longBasic
  | longLiteral
deriving DecidableEq, Repr

/-- Can a string be written in a form without escapes? -/
def Form.suits (cs : List Char) : Form → Bool
  | .basic => !cs.any isControlCode && !cs.contains '\\' && !cs.contains '"' && !cs.contains '\n'
  | .literal => !cs.any isControlCode && !cs.contains '\'' && !cs.contains '\n'
  | .longBasic => !cs.any isControlCode && !cs.contains '\\' && longestRun '"' cs ≤ 2
  | .longLiteral => !cs.any isControlCode && longestRun '\'' cs ≤ 2

/-- The form in which a string is written. -/
def Form.ofString (cs : List Char) : Form :=
  match [basic, literal, longBasic, longLiteral].find? (Form.suits cs) with
  | some form => form
  | none => if cs.contains '\n' then .longBasic else .basic

/-- The form in which a key is written that cannot be bare; it has to stay on one line. -/
def Form.ofKey (cs : List Char) : Form :=
  match [basic, literal].find? (Form.suits cs) with
  | some form => form
  | none => .basic

/-- The digits of a character code in an escape. -/
def codeDigits (n : Nat) : List Char :=
  let digits := (Nat.toDigits 16 n).map Char.toUpper
  List.replicate (4 - digits.length) '0' ++ digits

/-- How a character other than a double quote stands between double quotes. -/
def basicChar (long : Bool) (c : Char) : List Char :=
  if c = '\x08' then ['\\', 'b']
  else if c = '\t' then ['\\', 't']
  else if c = '\n' then (if long then ['\n'] else ['\\', 'n'])
  else if c = '\x0c' then ['\\', 'f']
  else if c = '\r' then ['\\', 'r']
  else if c = '\\' then ['\\', '\\']
  else if isControlCode c then '\\' :: 'u' :: codeDigits c.toNat
  else [c]

/-- A text between double quotes.  A quote is written as an escape where the run of quotes that are
not, whose length so far is given, would get too long. -/
def basicText (long : Bool) : Nat → List Char → List Char
  | _, [] => []
  | run, c :: cs =>
      if c = '"' then
        if run + 1 ≤ (if long then 2 else 0) then '"' :: basicText long (run + 1) cs
        else '\\' :: '"' :: basicText long 0 cs
      else basicChar long c ++ basicText long 0 cs

/-- The line break that opens a string which goes over several lines. -/
def opening (cs : List Char) : List Char :=
  if cs.contains '\n' then ['\n'] else []

/-- A string in a form. -/
def Form.write (cs : List Char) : Form → List Char
  | .basic => ['"'] ++ basicText false 0 cs ++ ['"']
  | .literal => ['\''] ++ cs ++ ['\'']
  | .longBasic => ['"', '"', '"'] ++ opening cs ++ basicText true 0 cs ++ ['"', '"', '"']
  | .longLiteral => ['\'', '\'', '\''] ++ opening cs ++ cs ++ ['\'', '\'', '\'']

/-- How a string is written. -/
def writeString (s : String) : List Char :=
  (Form.ofString s.toList).write s.toList

/-- Can the character stand in a bare key? -/
def isBareChar (c : Char) : Bool :=
  c.isAlphanum || c = '_' || c = '-'

/-- How a key is written. -/
def writeKey (key : String) : List Char :=
  if !key.isEmpty && key.toList.all isBareChar then key.toList
  else (Form.ofKey key.toList).write key.toList

/-- A line that gives a key a string. -/
def writeMember (member : String × String) : List Char :=
  writeKey member.1 ++ [' ', '=', ' '] ++ writeString member.2 ++ ['\n']

/-- A table of strings under a header. -/
def writeTable (name : String) (members : List (String × String)) : List Char :=
  ['['] ++ writeKey name ++ [']', '\n'] ++ members.flatMap writeMember

end ClientGen.Toml
