import ClientGen.Toml.Members
import ClientGen.Toml.Scalar

/-!
# Reading TOML documents

A document is a sequence of statements, each on lines of its own: a header opens a table, and a key
with a value adds to the table that was opened last.  Values can be nested up to a limit.
-/

namespace ClientGen.Toml

/-! ## Space and comments -/

/-- Drops a comment up to the end of its line. -/
def skipComment : List Char → Option (List Char)
  | [] => some []
  | '\n' :: rest => some ('\n' :: rest)
  | '\r' :: '\n' :: rest => some ('\r' :: '\n' :: rest)
  | c :: rest => if isControlCode c then none else skipComment rest

/-- Drops space, line breaks and comments; the first argument says if a comment has begun. -/
def skipLines : Bool → List Char → Option (List Char)
  | _, [] => some []
  | _, '\n' :: rest => skipLines false rest
  | _, '\r' :: '\n' :: rest => skipLines false rest
  | true, c :: rest => if isControlCode c then none else skipLines true rest
  | false, c :: rest =>
      if isGap c then skipLines false rest
      else if c = '#' then skipLines true rest
      else some (c :: rest)

/-- Drops the rest of a line, on which nothing but a comment can stand. -/
def endLine (cs : List Char) : Option (List Char) :=
  match skipGap cs with
  | [] => some []
  | '\n' :: rest => some rest
  | '\r' :: '\n' :: rest => some rest
  | '#' :: rest => skipComment rest
  | _ => none

/-! ## Values -/

/-- How deep values can be nested. -/
def nestingLimit : Nat := 80

mutual

/-- Reads a value.  The first argument bounds the recursion, the second one the nesting. -/
def valueWithin : Nat → Nat → Reader Value
  | 0, _, _ => none
  | fuel + 1, depth, cs =>
      match cs, depth with
      | '[' :: rest, depth + 1 =>
          (itemsWithin fuel depth rest).map fun (items, rest) => (.array items, rest)
      | '\x7b' :: rest, depth + 1 =>
          (membersWithin fuel depth [] rest).map fun (members, rest) =>
            (.table (Item.membersValue members), rest)
      | cs, _ => scalar cs

/-- Reads the items of an array and the bracket that closes it. -/
def itemsWithin : Nat → Nat → Reader (List Value)
  | 0, _, _ => none
  | fuel + 1, depth, cs =>
      match skipLines false cs with
      | none => none
      | some (']' :: rest) => some ([], rest)
      | some cs =>
          match valueWithin fuel depth cs with
          | none => none
          | some (v, rest) =>
              match skipLines false rest with
              | some (',' :: rest) =>
                  (itemsWithin fuel depth rest).map fun (items, rest) => (v :: items, rest)
              | some (']' :: rest) => some ([v], rest)
              | _ => none

/-- Reads the members of a table that is a value, and the brace that closes it. -/
def membersWithin : Nat → Nat → Members → Reader Members
  | 0, _, _, _ => none
  | fuel + 1, depth, members, cs =>
      match skipLines false cs with
      | none => none
      | some ('\x7d' :: rest) => some (members, rest)
      | some cs =>
          match memberWithin fuel depth cs with
          | none => none
          | some ((key, v), rest) =>
              match members.addValue v key, skipLines false rest with
              | some members, some (',' :: rest) => membersWithin fuel depth members rest
              | some members, some ('\x7d' :: rest) => some (members, rest)
              | _, _ => none

/-- Reads a key and its value. -/
def memberWithin : Nat → Nat → Reader (List String × Value)
  | 0, _, _ => none
  | fuel + 1, depth, cs =>
      match dottedKey cs with
      | some (key, '=' :: rest) =>
          (valueWithin fuel depth (skipGap rest)).map fun (v, rest) => ((key, v), rest)
      | _ => none

end

/-- Reads a key and its value. -/
def member : Reader (List String × Value) := fun cs =>
  memberWithin (3 * cs.length + 3) nestingLimit cs

/-! ## Documents -/

/-- A document of which a part has been read. -/
structure Draft where
  root : Members := []
  /-- The path of the table that was opened last. -/
  current : List String := []

namespace Draft

/-- Opens the table of a path in a way of its own. -/
def openAt (d : Draft) (openLast : String → Members → Option Members) (path : List String) :
    Option Draft :=
  match path.getLast? with
  | none => none
  | some name =>
      (d.root.changeAt (openLast name) path.dropLast).map fun root => { root, current := path }

/-- Adds a value to the table that was opened last. -/
def add (d : Draft) (key : List String) (v : Value) : Option Draft :=
  (d.root.changeAt (Members.addValue v key) d.current).map fun root => { d with root }

/-- Reads a statement. -/
def statement (d : Draft) (cs : List Char) : Option (Draft × List Char) :=
  match cs with
  | '[' :: '[' :: rest =>
      match dottedKey rest with
      | some (path, ']' :: ']' :: rest) => do
          return (← d.openAt Members.openNext path, ← endLine rest)
      | _ => none
  | '[' :: rest =>
      match dottedKey rest with
      | some (path, ']' :: rest) => do
          return (← d.openAt Members.openTable path, ← endLine rest)
      | _ => none
  | cs =>
      match member cs with
      | some ((key, v), rest) => do return (← d.add key v, ← endLine rest)
      | none => none

/-- Reads statements to the end of the text; the first argument bounds their number. -/
def statements : Nat → Draft → List Char → Option Draft
  | 0, _, _ => none
  | n + 1, d, cs =>
      match skipLines false cs with
      | none => none
      | some [] => some d
      | some cs =>
          match d.statement cs with
          | none => none
          | some (d, rest) => statements n d rest

end Draft

/-- A text without the mark that can open it. -/
def dropMark : List Char → List Char
  | c :: rest => if c = '\ufeff' then rest else c :: rest
  | [] => []

/-- The members of the document that a text is. -/
def document (text : String) : Option (List (String × Value)) :=
  let cs := dropMark text.toList
  (Draft.statements (cs.length + 1) {} cs).map fun d => Item.membersValue d.root

end ClientGen.Toml
