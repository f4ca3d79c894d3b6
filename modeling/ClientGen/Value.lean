/-!
# Values

The values that templates work with are those of JSON.  Integers are exact; every other number is a
floating point number.
-/

namespace ClientGen

/-- A value of JSON. -/
inductive Value where
  | null
  | bool (b : Bool)
  | int (n : Int)
  | float (x : Float)
  | string (s : String)
  | array (items : List Value)
  /-- The members in ascending order of their names. -/
  | object (members : List (String × Value))
deriving Inhabited, Repr, BEq

end ClientGen
