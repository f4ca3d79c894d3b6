import ClientGen.Text.Shortest
import ClientGen.Value

/-!
# Values in templates

How values print, which of them count as true, how references lead into them, and arithmetic.

Integers are exact as long as both operands and the result fit into 64 bits; what does not fit is an
error.  Every other operation is done on floating point numbers, and division of any two numbers
too, though a whole quotient is an integer again.
-/

namespace ClientGen

/-! ## Text and truth -/

namespace Value

mutual

/-- How a value prints. -/
def text : Value → String
  | null => ""
  | bool b => if b then "true" else "false"
  | int n => toString n
  | float x => Text.Shortest.display x
  | string s => s
  | array items => "[" ++ ", ".intercalate (texts items) ++ "]"
  | object _ => "[object]"

/-- How values print. -/
def texts : List Value → List String
  | [] => []
  | item :: items => text item :: texts items

end

/-- Does a value count as true? -/
def isTruthy : Value → Bool
  | null => false
  | bool b => b
  | int n => n ≠ 0
  | float x => x != 0.0
  | string s => !s.isEmpty
  | array items => !items.isEmpty
  | object members => !members.isEmpty

/-- The number of an item that a text names, written without signs and leading zeros. -/
def itemNumber? (text : String) : Option Nat :=
  let cs := text.toList
  if cs ≠ [] ∧ cs.all Char.isDigit ∧ (cs.head? ≠ some '0' ∨ cs.length = 1) then
    some (cs.foldl (fun n d => n * 10 + (d.toNat - '0'.toNat)) 0)
  else none

/-- The member or the item that a text names. -/
def step? (value : Value) (name : String) : Option Value :=
  match value with
  | object members => members.lookup name
  | array items => (itemNumber? name).bind (items[·]?)
  | _ => none

/-- The value that some names lead to. -/
def at? (value : Value) : List String → Option Value
  | [] => some value
  | name :: names => (value.step? name).bind (·.at? names)

/-! ## JSON -/

/-- The digits of a control character in an escape. -/
def escapeDigits (n : Nat) : List Char :=
  let digits := Nat.toDigits 16 n
  List.replicate (4 - digits.length) '0' ++ digits

/-- How a character stands in a JSON string. -/
def jsonChar (c : Char) : List Char :=
  if c = '"' then ['\\', '"']
  else if c = '\\' then ['\\', '\\']
  else if c = '\n' then ['\\', 'n']
  else if c = '\r' then ['\\', 'r']
  else if c = '\t' then ['\\', 't']
  else if c = '\x08' then ['\\', 'b']
  else if c = '\x0c' then ['\\', 'f']
  else if c.toNat < 0x20 then '\\' :: 'u' :: escapeDigits c.toNat
  else [c]

/-- A text as a JSON string. -/
def jsonString (s : String) : String :=
  String.ofList ('"' :: (s.toList.flatMap jsonChar ++ ['"']))

/-- A bracketed list of parts.  With an indentation every part stands on a line of its own. -/
def jsonList (opening closing : String) (indent : Option Nat) (parts : List String) : String :=
  match indent, parts with
  | some n, _ :: _ =>
      let gap (n : Nat) : String := "\n" ++ String.ofList (List.replicate (2 * n) ' ')
      opening ++ gap (n + 1) ++ ("," ++ gap (n + 1)).intercalate parts ++ gap n ++ closing
  | _, _ => opening ++ ",".intercalate parts ++ closing

/-- What stands between a name and its value. -/
def jsonColon (indent : Option Nat) : String :=
  if indent.isSome then ": " else ":"

mutual

/-- The JSON text of a value, on one line or indented by levels. -/
def json (indent : Option Nat) : Value → String
  | null => "null"
  | bool b => if b then "true" else "false"
  | int n => toString n
  | float x => Text.Shortest.json x
  | string s => jsonString s
  | array items => jsonList "[" "]" indent (jsonItems (indent.map (· + 1)) items)
  | object members =>
      jsonList "\x7b" "\x7d" indent (jsonMembers (indent.map (· + 1)) members)

/-- The JSON texts of values. -/
def jsonItems (indent : Option Nat) : List Value → List String
  | [] => []
  | item :: items => json indent item :: jsonItems indent items

/-- The JSON texts of members. -/
def jsonMembers (indent : Option Nat) : List (String × Value) → List String
  | [] => []
  | (name, value) :: members =>
      (jsonString name ++ jsonColon indent ++ json indent value) :: jsonMembers indent members

end

end Value

/-! ## Numbers -/

/-- A number. -/
inductive Number where
  | int (n : Int)
  | float (x : Float)

namespace Number

/-- The number that a value is. -/
def ofValue? : Value → Option Number
  | .int n => some (int n)
  | .float x => some (float x)
  | _ => none

/-- The value of a number. -/
def toValue : Number → Value
  | int n => .int n
  | float x => .float x

/-- The number as a floating point number. -/
def toFloat : Number → Float
  | int n => Float.ofInt n
  | float x => x

/-- How a number stands in a text that is put together. -/
def text : Number → String
  | int n => toString n
  | float x => Text.Shortest.json x

/-- Does an integer fit into 64 bits with a sign? -/
def isSigned (n : Int) : Bool :=
  -(Int.pow 2 63) ≤ n && n < Int.pow 2 63

/-- Does an integer fit into 64 bits without a sign? -/
def isUnsigned (n : Int) : Bool :=
  0 ≤ n && n < Int.pow 2 64

/-- A floating point number that is finite, none otherwise. -/
def ofFloat? (x : Float) : Option Number :=
  if Text.Shortest.isFinite x then some (float x) else none

/-- The whole part of a finite floating point number. -/
def wholePart (x : Float) : Int :=
  let b := Text.Shortest.Binary.ofBits x.toBits
  let magnitude : Nat := b.mantissa * Nat.pow 2 b.exponent / Nat.pow 2 1074
  if Text.Shortest.isNegative x then -(magnitude : Int) else (magnitude : Int)

/-- Is the finite floating point number whole? -/
def isWhole (x : Float) : Bool :=
  let b := Text.Shortest.Binary.ofBits x.toBits
  b.mantissa * Nat.pow 2 b.exponent % Nat.pow 2 1074 = 0

/-- The nearest integer that fits into 64 bits with a sign. -/
def clamp (n : Int) : Int :=
  max (-(Int.pow 2 63)) (min n (Int.pow 2 63 - 1))

/-- An operation on integers that fit, exact or not at all; on all others one on floating point
numbers.  The outer option is the error, the inner one a result that is no number. -/
def arithmetic (exact : Int → Int → Int) (rounded : Float → Float → Float) (a b : Number) :
    Option (Option Number) :=
  match a, b with
  | int m, int n =>
      if isSigned m && isSigned n then
        if isSigned (exact m n) then some (some (int (exact m n))) else none
      else if isUnsigned m && isUnsigned n then
        if isUnsigned (exact m n) then some (some (int (exact m n))) else none
      else some (ofFloat? (rounded (Float.ofInt m) (Float.ofInt n)))
  | a, b => some (ofFloat? (rounded a.toFloat b.toFloat))

/-- The remainder of two finite floating point numbers, with the sign of the first. -/
def remainder (x y : Float) : Float :=
  let a := Text.Shortest.Binary.ofBits x.toBits
  let b := Text.Shortest.Binary.ofBits y.toBits
  if b.mantissa = 0 then 0.0 / 0.0
  else
    let unit := min a.exponent b.exponent
    let rest := a.mantissa * Nat.pow 2 (a.exponent - unit)
      % (b.mantissa * Nat.pow 2 (b.exponent - unit))
    let magnitude := Float.scaleB (Float.ofNat rest) (unit - 1074)
    if Text.Shortest.isNegative x then -magnitude else magnitude

/-- The quotient of two numbers; none if it is not finite. -/
def divide (a b : Number) : Option Number :=
  let q := a.toFloat / b.toFloat
  if !Text.Shortest.isFinite q then none
  else if isWhole q then some (int (clamp (wholePart q)))
  else some (float q)

/-- The remainder of two numbers. -/
def modulo (a b : Number) : Option (Option Number) :=
  match a, b with
  | int m, int n =>
      if n = 0 then none else some (some (int (Int.tmod m n)))
  | a, b => some (ofFloat? (remainder a.toFloat b.toFloat))

end Number

end ClientGen
