import ClientGen.Text.Alphanumeric
import ClientGen.Text.CaseMapping

/-!
# Naming conventions

Symbols come in many spellings: `display_name`, `DisplayName`, `HTTPServer`.  A symbol is first
split into words; each convention then joins the words again in its own way.

A character that is neither a letter nor a number ends a word and belongs to none.  Inside a run of
letters and numbers a capital starts a new word after a small letter or a digit, and also after
another capital if a small letter follows: the last capital of an acronym belongs to the next word
(`HTTPServer` is `HTTP`, `Server`).
-/

namespace ClientGen.Naming

open Text

/-- A word of a symbol. -/
abbrev Word := List Char

/-! ## Splitting -/

/-- Is the character one of the ten digits of ASCII? -/
def isAsciiDigit (c : Char) : Bool :=
  '0' ≤ c && c ≤ '9'

/-- Does `c` start a new word between the character before it in its word and the one after it? -/
def startsWord (previous c : Char) (next : Option Char) : Bool :=
  isUpper c &&
    (isLower previous || isAsciiDigit previous || (isUpper previous && next.any isLower))

/-- Puts a word, read backwards, before other words, unless it is empty. -/
def finish (current : List Char) (others : List Word) : List Word :=
  if current.isEmpty then others else current.reverse :: others

/-- The words of a text that continues a word read so far; `current` is that word backwards. -/
def wordsAfter : (current : List Char) → List Char → List Word
  | current, [] => finish current []
  | current, c :: rest =>
      if isAlphanumeric c then
        match current with
        | [] => wordsAfter [c] rest
        | previous :: _ =>
            if startsWord previous c rest.head? then current.reverse :: wordsAfter [c] rest
            else wordsAfter (c :: current) rest
      else finish current (wordsAfter [] rest)

/-- The words of a symbol. -/
def words (symbol : List Char) : List Word :=
  wordsAfter [] symbol

/-! ## Joining -/

/-- A word with its first letter in upper case. -/
def capitalizeWord : Word → Word
  | [] => []
  | c :: rest => upperOf c ++ rest

/-- Lower case words joined by underscores. -/
def snake (symbol : List Char) : List Char :=
  ['_'].intercalate ((words symbol).map lowercase)

/-- Capitalized words, acronyms as written. -/
def pascal (symbol : List Char) : List Char :=
  (words symbol).flatMap capitalizeWord

/-- A lower case word followed by capitalized ones. -/
def camel (symbol : List Char) : List Char :=
  match words symbol with
  | [] => []
  | w :: ws => lowercase w ++ ws.flatMap capitalizeWord

/-! ## On strings -/

/-- The words of a symbol. -/
def splitWords (symbol : String) : List String :=
  (words symbol.toList).map String.ofList

/-- `snake_case`. -/
def toSnakeCase (symbol : String) : String :=
  String.ofList (snake symbol.toList)

/-- `PascalCase`. -/
def toPascalCase (symbol : String) : String :=
  String.ofList (pascal symbol.toList)

/-- `camelCase`. -/
def toCamelCase (symbol : String) : String :=
  String.ofList (camel symbol.toList)

/-- A text with its first letter in upper case. -/
def capitalize (text : String) : String :=
  String.ofList (capitalizeWord text.toList)

/-- A text in lower case. -/
def toLowercase (text : String) : String :=
  String.ofList (lowercase text.toList)

/-- A text in upper case. -/
def toUppercase (text : String) : String :=
  String.ofList (uppercase text.toList)

end ClientGen.Naming
