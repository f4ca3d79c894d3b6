import ClientGen.Template.Filter

/-!
# Tests and functions

The questions that a template can ask about a value, and the functions that it can call.
-/

namespace ClientGen.Template

/-! ## Tests -/

/-- Is a text somewhere inside another one? -/
def isInside (part : List Char) : List Char → Bool
  | [] => part.isEmpty
  | c :: rest => part.isPrefixOf (c :: rest) || isInside part rest

/-- Has a container something?  A text has the texts inside it, an object has the names of its
members. -/
def contains? (container item : Value) : Option Bool :=
  match container, item with
  | .array items, item => some (items.any (· == item))
  | .string s, .string part => some (isInside part.toList s.toList)
  | .object members, .string name => some (members.lookup name).isSome
  | _, _ => none

/-- Does a test without arguments hold of a value? -/
def holdsAlone? (name : String) (value : Value) : Option Bool :=
  let isMultiple (n : Number) : Option Bool :=
    some (Number.remainder n.toFloat 2.0 == 0.0)
  match name, value with
  | "odd", value => ((Number.ofValue? value).bind isMultiple).map (!·)
  | "even", value => (Number.ofValue? value).bind isMultiple
  | "string", value => some (match value with | .string _ => true | _ => false)
  | "number", value => some (Number.ofValue? value).isSome
  | "iterable", value => some (match value with | .array _ | .object _ => true | _ => false)
  | "object", value => some (match value with | .object _ => true | _ => false)
  | _, _ => none

/-- Does a test with an argument hold of a value? -/
def holdsWith? (name : String) (value arg : Value) : Option Bool :=
  match name, value, arg with
  | "divisibleby", value, arg =>
      match Number.ofValue? value, Number.ofValue? arg with
      | some a, some b => some (Number.remainder a.toFloat b.toFloat == 0.0)
      | _, _ => none
  | "starting_with", .string s, .string part => some (part.toList.isPrefixOf s.toList)
  | "ending_with", .string s, .string part => some (part.toList.isSuffixOf s.toList)
  | "containing", value, arg => contains? value arg
  | _, _, _ => none

/-- Does a test hold of what a reference leads to?  Only two tests can be asked about nothing. -/
def holds? (name : String) (value : Option Value) (args : List Value) : Option Bool :=
  match name, value, args with
  | "defined", value, [] => some value.isSome
  | "undefined", value, [] => some value.isNone
  | name, some value, [] => holdsAlone? name value
  | name, some value, arg :: _ => holdsWith? name value arg
  | _, none, _ => none

/-! ## Functions -/

/-- The integers from one to before another one in equal steps. -/
def range (args : Args) : Option Value :=
  match args.nat "start" (some 0), args.nat "end" none, args.nat "step_by" (some 1) with
  | some start, some stop, some step =>
      if start > stop || step = 0 then none
      else
        let count := (stop - start + step - 1) / step
        some (.array ((List.range count).map fun n => .int ((start + n * step : Nat) : Int)))
  | _, _, _ => none

/-- What a function returns. -/
def callFunction (name : String) (args : Args) : Option Value :=
  match name with
  | "range" => range args
  | "get_env" => (args.text "name" none).bind fun _ => args.get? "default"
  | _ => none

end ClientGen.Template
