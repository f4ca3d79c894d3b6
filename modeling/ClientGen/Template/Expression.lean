/-!
# Expressions of templates

What stands between the braces of a template.  A reference leads from a name through members and
items; a filter is applied to the value before it; a negated expression is the opposite truth value.
-/

namespace ClientGen.Template

/-- The arithmetic operators. -/
inductive MathOp where
  | add
  | sub
  | mul
  | div
  | mod
deriving DecidableEq, Repr

/-- Does the operator bind tighter than a sum? -/
def MathOp.isTight : MathOp → Bool
  | .add | .sub => false
  | .mul | .div | .mod => true

/-- The operators whose result is a truth value. -/
inductive LogicOp where
  | or
  | and
  | less
  | lessOrEqual
  | greater
  | greaterOrEqual
  | equal
  | notEqual
deriving DecidableEq, Repr

mutual

/-- A way from a name to a value inside the value of the name. -/
inductive Reference where
  | mk (root : String) (steps : List RefStep)

/-- One step of a reference. -/
inductive RefStep where
  /-- To a member, or to an item by its number. -/
  | member (name : String)
  /-- To what the text or the number at another reference names. -/
  | computed (reference : Reference)

end

mutual

/-- An expression. -/
inductive Expr where
  | mk (term : Term) (negated : Bool) (filters : List Call)

/-- An expression without filters. -/
inductive Term where
  | string (text : String)
  | int (n : Int)
  | float (x : Float)
  | bool (b : Bool)
  | reference (r : Reference)
  | array (items : List Expr)
  /-- The texts of several terms, one after the other. -/
  | concat (parts : List Term)
  | math (op : MathOp) (left right : Expr)
  | logic (op : LogicOp) (left right : Expr)
  | isIn (negated : Bool) (item container : Expr)
  | test (negated : Bool) (subject : Reference) (name : String) (args : List Expr)
  | call (call : Call)
  | macroCall (library : String) (call : Call)

/-- A name with arguments by name. -/
inductive Call where
  | mk (name : String) (args : List (String × Expr))

end

instance : Inhabited Reference := ⟨.mk "" []⟩

instance : Inhabited Expr := ⟨.mk (.bool false) false []⟩

instance : Inhabited Call := ⟨.mk "" []⟩

namespace Call

/-- The name of what is called. -/
def name : Call → String
  | mk name _ => name

/-- The arguments in their order. -/
def args : Call → List (String × Expr)
  | mk _ args => args

/-- The argument of a name; the last one if there are several. -/
def arg? (c : Call) (name : String) : Option Expr :=
  c.args.reverse.lookup name

end Call

namespace Expr

/-- The expression of a term. -/
def ofTerm (term : Term) : Expr :=
  mk term false []

/-- The term that the filters are applied to. -/
def term : Expr → Term
  | mk term _ _ => term

/-- Is the expression the opposite truth value? -/
def negated : Expr → Bool
  | mk _ negated _ => negated

/-- The filters in the order in which they are applied. -/
def filters : Expr → List Call
  | mk _ _ filters => filters

/-- The opposite truth value. -/
def negate : Expr → Expr
  | mk term _ filters => mk term true filters

end Expr

end ClientGen.Template
