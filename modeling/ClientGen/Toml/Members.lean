import ClientGen.Toml.Value

/-!
# Tables of a TOML document

A document fills its tables piece by piece, and how a table came to be decides who can still add to
it.  A header gives a table of its own once.  A table that was only named on the way to another one
can still get its header.  A dotted key adds to tables that dotted keys have made, and goes through
those that were only named on the way.  A table or an array that is written as a value is finished.
-/

namespace ClientGen.Toml

/-- How a table came to be. -/
inductive Origin where
  /-- It has a header. -/
  | header
  /-- It was named on the way to a table with a header. -/
  | passing
  /-- It was named by a dotted key. -/
  | dotted
deriving DecidableEq, Repr

/-- What a name stands for while a document is read. -/
inductive Item where
  | value (v : Value)
  | table (origin : Origin) (members : List (String × Item))
  /-- An array of tables with headers, the last one apart from those before it. -/
  | tables (earlier : List (List (String × Item))) (last : List (String × Item))
deriving Inhabited

/-- The names of a table and what they stand for. -/
abbrev Members := List (String × Item)

namespace Item

mutual

/-- The finished value. -/
def toValue : Item → Value
  | value v => v
  | table _ members => .table (membersValue members)
  | tables earlier last => .array (tableValues earlier ++ [.table (membersValue last)])

/-- The finished members of a table. -/
def membersValue : List (String × Item) → List (String × Value)
  | [] => []
  | (name, item) :: members => (name, toValue item) :: membersValue members

/-- The finished tables of an array. -/
def tableValues : List (List (String × Item)) → List Value
  | [] => []
  | members :: more => .table (membersValue members) :: tableValues more

end

end Item

namespace Members

/-- Replaces what a name stands for. -/
def replace (members : Members) (name : String) (item : Item) : Members :=
  members.map fun m => if m.1 = name then (name, item) else m

/-- Adds a value under a dotted key. -/
def addValue (v : Value) : List String → Members → Option Members
  | [], _ => none
  | [name], members =>
      match members.lookup name with
      | some _ => none
      | none => some (members ++ [(name, .value v)])
  | name :: rest, members =>
      match members.lookup name with
      | none => do
          return members ++ [(name, .table .dotted (← addValue v rest []))]
      | some (.table origin inner) =>
          if origin = .header || (origin = .passing && rest.length = 1) then none
          else do return members.replace name (.table origin (← addValue v rest inner))
      | some (.tables earlier last) =>
          if rest.length = 1 then none
          else do return members.replace name (.tables earlier (← addValue v rest last))
      | some (.value _) => none

/-- Changes the table that a path of names leads to, and names the tables on the way that are not
there yet.  In an array of tables the path leads into the last one. -/
def changeAt (change : Members → Option Members) : List String → Members → Option Members
  | [], members => change members
  | name :: rest, members =>
      match members.lookup name with
      | none => do
          return members ++ [(name, .table .passing (← changeAt change rest []))]
      | some (.table origin inner) => do
          return members.replace name (.table origin (← changeAt change rest inner))
      | some (.tables earlier last) => do
          return members.replace name (.tables earlier (← changeAt change rest last))
      | some (.value _) => none

/-- Gives a table its header. -/
def openTable (name : String) (members : Members) : Option Members :=
  match members.lookup name with
  | none => some (members ++ [(name, .table .header [])])
  | some (.table .passing inner) => some (members.replace name (.table .header inner))
  | _ => none

/-- Adds a table to an array of tables. -/
def openNext (name : String) (members : Members) : Option Members :=
  match members.lookup name with
  | none => some (members ++ [(name, .tables [] [])])
  | some (.tables earlier last) => some (members.replace name (.tables (earlier ++ [last]) []))
  | _ => none

end Members

end ClientGen.Toml
