/-!
# Lines and separated parts

Splitting texts at a character, as lists of characters.  `splitAtFirst` separates at the first
occurrence only; `lines` drops the line break that ends a text and the carriage return before a
line feed.
-/

namespace ClientGen.Text

/-- The parts of a text before and after the first occurrence of a character. -/
def splitAtFirst (sep : Char) (cs : List Char) : Option (List Char × List Char) :=
  match cs.dropWhile (· ≠ sep) with
  | [] => none
  | _ :: rest => some (cs.takeWhile (· ≠ sep), rest)

/-- A text without the carriage return at its end. -/
def dropReturn (line : List Char) : List Char :=
  match line.reverse with
  | '\r' :: rest => rest.reverse
  | _ => line

/-- Cleans the pieces between line feeds: the last one has no line feed after it. -/
def linesOfPieces : List (List Char) → List (List Char)
  | [] => []
  | [last] => if last.isEmpty then [] else [last]
  | piece :: pieces => dropReturn piece :: linesOfPieces pieces

/-- The lines of a text. -/
def lines (cs : List Char) : List (List Char) :=
  linesOfPieces (cs.splitOn '\n')

/-- A text without a given beginning, if it has that beginning. -/
def dropStart? : List Char → List Char → Option (List Char)
  | [], cs => some cs
  | _ :: _, [] => none
  | p :: ps, c :: cs => if p = c then dropStart? ps cs else none

/-- A text without a given end, if it has that end. -/
def dropEnd? (ending cs : List Char) : Option (List Char) :=
  (dropStart? ending.reverse cs.reverse).map List.reverse

end ClientGen.Text
