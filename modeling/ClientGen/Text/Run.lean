/-!
# Sets of code points as ascending runs

A property of characters is stored as a list of arithmetic runs: the code points `first`,
`first + stride`, ... up to `last`.  Alternating upper and lower case letters make a stride of two
as common in the standard as a stride of one.

A table is searched from the left.  The runs of a table are disjoint and ascending, also as
intervals, so the first run that does not end before the code point decides membership.
-/

namespace ClientGen.Text

/-- The code points `first`, `first + stride`, ... up to `last`. -/
structure Run where
  first : Nat
  last : Nat
  stride : Nat
deriving DecidableEq, Repr

namespace Run

/-- Is the code point one of the run? -/
def covers (r : Run) (n : Nat) : Bool :=
  decide (r.first ≤ n) && decide (n ≤ r.last) && decide ((n - r.first) % r.stride = 0)

/-- Is the code point in one of the runs of an ascending table? -/
def holds : List Run → Nat → Bool
  | [], _ => false
  | r :: table, n => if n ≤ r.last then r.covers n else holds table n

/-- A table is ascending when every run has a positive stride, ends on one of its own points and
lies before the next. -/
def Ascending : List Run → Prop
  | [] => True
  | [r] => 0 < r.stride ∧ r.first ≤ r.last ∧ (r.last - r.first) % r.stride = 0
  | r :: s :: table =>
      (0 < r.stride ∧ r.first ≤ r.last ∧ (r.last - r.first) % r.stride = 0 ∧ r.last < s.first) ∧
        Ascending (s :: table)

instance decidableAscending : (table : List Run) → Decidable (Ascending table)
  | [] => isTrue trivial
  | [r] => inferInstanceAs
      (Decidable (0 < r.stride ∧ r.first ≤ r.last ∧ (r.last - r.first) % r.stride = 0))
  | _ :: s :: table => @instDecidableAnd _ _ inferInstance (decidableAscending (s :: table))

end Run

end ClientGen.Text
