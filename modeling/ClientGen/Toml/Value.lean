/-!
# Values of TOML

The values of a TOML document.  Dates and times are kept as their usual text; a reader that asks
for a table sees in one of them a table with a single member.
-/

namespace ClientGen.Toml

/-- A value of TOML. -/
inductive Value where
  | string (s : String)
  | integer (n : Int)
  | float (x : Float)
  | boolean (b : Bool)
  /-- A date, a time or both, in the usual text. -/
  | datetime (text : String)
  | array (items : List Value)
  /-- The members in the order of the document. -/
  | table (members : List (String × Value))
deriving Inhabited, Repr

namespace Value

/-- The name of the only member of a date or time. -/
def datetimeMember : String := "$__toml_private_datetime"

/-- The members of a value that counts as a table. -/
def members? : Value → Option (List (String × Value))
  | table members => some members
  | datetime text => some [(datetimeMember, string text)]
  | _ => none

/-- The text of a string. -/
def text? : Value → Option String
  | string s => some s
  | _ => none

end Value

end ClientGen.Toml
