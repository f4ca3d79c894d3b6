import ClientGen.Template.Expression
import ClientGen.Text.Decimal
import ClientGen.Text.Lines

/-!
# Reading expressions

Readers take characters from the start of a text and give what is left.  Of several readers for one
place the first that succeeds is taken, and what it has taken stays taken.

From the weakest to the strongest, expressions are built with `or`, `and`, `not`, `in` and the
comparisons, the arithmetic operators, and filters.  A filter applies to all of the arithmetic
before it.
-/

namespace ClientGen.Template

/-- Reads something from the start of a text. -/
abbrev Reader (α : Type) := List Char → Option (α × List Char)

namespace Reader

/-- Is the character white space inside a tag? -/
def isGap (c : Char) : Bool :=
  c = ' ' || c = '\t' || c = '\r' || c = '\n'

/-- Drops white space. -/
def skipGap (cs : List Char) : List Char :=
  cs.dropWhile isGap

/-- Reads a given text. -/
def literal (text : String) (cs : List Char) : Option (List Char) :=
  Text.dropStart? text.toList cs

/-- Reads a given text after white space. -/
def next (text : String) (cs : List Char) : Option (List Char) :=
  literal text (skipGap cs)

/-- Reads a given text and at least one character of white space. -/
def word (text : String) (cs : List Char) : Option (List Char) :=
  match next text cs with
  | some (c :: rest) => if isGap c then some (skipGap rest) else none
  | _ => none

/-- Reads as often as possible, at most the given number of times. -/
def many {α : Type} (read : Reader α) : Nat → List Char → List α × List Char
  | 0, cs => ([], cs)
  | n + 1, cs =>
      match read cs with
      | none => ([], cs)
      | some (a, rest) =>
          let (more, rest) := many read n rest
          (a :: more, rest)

/-- The first of several readers that succeeds. -/
def firstOf {α : Type} (readers : List (Reader α)) : Reader α := fun cs =>
  readers.findSome? fun read => read cs

/-- Reads between parentheses. -/
def inParentheses {α : Type} (read : Reader α) : Reader α := fun cs =>
  match next "(" cs with
  | none => none
  | some cs =>
      match read cs with
      | none => none
      | some (a, cs) => (next ")" cs).map fun cs => (a, cs)

/-! ## Words and literals -/

/-- Can the character stand in a name? -/
def isWordChar (c : Char) : Bool :=
  c.isAlphanum || c = '_'

/-- Reads a name. -/
def name : Reader String := fun cs =>
  match cs with
  | c :: rest =>
      if c.isAlpha || c = '_' then
        some (String.ofList (c :: rest.takeWhile isWordChar), rest.dropWhile isWordChar)
      else none
  | [] => none

/-- Reads a name after white space. -/
def nextName : Reader String := fun cs =>
  name (skipGap cs)

/-- Reads the digits of a natural number, which have no leading zero. -/
def digits : Reader (List Char) := fun cs =>
  match cs with
  | '0' :: rest => some (['0'], rest)
  | d :: rest =>
      if d.isDigit then some (d :: rest.takeWhile Char.isDigit, rest.dropWhile Char.isDigit) else none
  | [] => none

/-- The number of some digits. -/
def numberOf (ds : List Char) : Nat :=
  ds.foldl (fun n d => n * 10 + (d.toNat - '0'.toNat)) 0

/-- Reads a minus sign. -/
def sign (cs : List Char) : Bool × List Char :=
  match cs with
  | '-' :: rest => (true, rest)
  | _ => (false, cs)

/-- Reads an integer. -/
def integer : Reader Int := fun cs =>
  let (negative, cs) := sign cs
  (digits cs).map fun (ds, rest) =>
    (if negative then -(numberOf ds : Int) else numberOf ds, rest)

/-- Reads a number with a point. -/
def decimal : Reader Float := fun cs =>
  let (negative, cs) := sign cs
  match digits cs with
  | some (whole, '.' :: rest) =>
      let fraction := rest.takeWhile Char.isDigit
      if fraction.isEmpty then none
      else
        let x := Text.doubleOf (numberOf (whole ++ fraction)) (-fraction.length)
        some (if negative then -x else x, rest.dropWhile Char.isDigit)
  | _ => none

/-- Reads a text between quotes, of which there are three kinds and in which nothing is escaped. -/
def quoted : Reader String := fun cs =>
  match cs with
  | q :: rest =>
      if q = '"' || q = '\'' || q = '\x60' then
        (Text.splitAtFirst q rest).map fun (text, rest) => (String.ofList text, rest)
      else none
  | [] => none

/-- Reads a truth value. -/
def truth : Reader Bool :=
  firstOf
    [fun cs => (literal "true" cs).map (true, ·),
      fun cs => (literal "false" cs).map (false, ·),
      fun cs => (literal "True" cs).map (true, ·),
      fun cs => (literal "False" cs).map (false, ·)]

/-- Reads a member after a point. -/
def memberStep : Reader RefStep := fun cs =>
  match cs with
  | '.' :: rest =>
      let member := rest.takeWhile isWordChar
      if member.isEmpty then none
      else some (.member (String.ofList member), rest.dropWhile isWordChar)
  | _ => none

/-- Reads a reference, with at most the given number of brackets one inside the other. -/
def referenceWithin : Nat → Reader Reference
  | 0 => fun _ => none
  | depth + 1 => fun cs =>
      match name cs with
      | none => none
      | some (root, rest) =>
          let step : Reader RefStep := firstOf [memberStep, bracketStep depth]
          let (steps, rest) := many step rest.length rest
          some (.mk root steps, rest)
where
  /-- Reads a step in brackets. -/
  bracketStep (depth : Nat) : Reader RefStep := fun cs =>
    match cs with
    | '[' :: rest =>
        let inside : Reader RefStep := firstOf
          [fun cs => (integer cs).map fun (n, rest) => (.member (toString n), rest),
            fun cs => (quoted cs).map fun (text, rest) => (.member text, rest),
            fun cs => (referenceWithin depth cs).map fun (r, rest) => (.computed r, rest)]
        match inside rest with
        | some (step, ']' :: rest) => some (step, rest)
        | _ => none
    | _ => none

/-- Reads a reference. -/
def reference : Reader Reference := fun cs =>
  referenceWithin (cs.length + 1) cs

/-! ## Operators -/

/-- Reads an arithmetic operator. -/
def mathOp : Reader MathOp := fun cs =>
  match skipGap cs with
  | '+' :: rest => some (.add, rest)
  | '-' :: rest => some (.sub, rest)
  | '*' :: rest => some (.mul, rest)
  | '/' :: rest => some (.div, rest)
  | '%' :: rest => some (.mod, rest)
  | _ => none

/-- Reads a comparison operator. -/
def comparison : Reader LogicOp := fun cs =>
  match skipGap cs with
  | '<' :: '=' :: rest => some (.lessOrEqual, rest)
  | '>' :: '=' :: rest => some (.greaterOrEqual, rest)
  | '<' :: rest => some (.less, rest)
  | '>' :: rest => some (.greater, rest)
  | '=' :: '=' :: rest => some (.equal, rest)
  | '!' :: '=' :: rest => some (.notEqual, rest)
  | _ => none

/-- Reads a word between truth values. -/
def connective : Reader LogicOp := fun cs =>
  match word "or" cs with
  | some rest => some (.or, rest)
  | none => (word "and" cs).map (.and, ·)

/-- Reads pairs of an operator and an operand. -/
def operations {ω α : Type} (op : Reader ω) (operand : Reader α) (cs : List Char) :
    List (ω × α) × List Char :=
  many
    (fun cs =>
      match op cs with
      | none => none
      | some (op, cs) => (operand cs).map fun (a, cs) => ((op, a), cs))
    cs.length cs

/-- Joins operands to the left, those around a tight operator first.  `left` is what waits for the
end of the tight operations. -/
def climb {ω α : Type} (tight : ω → Bool) (join : ω → α → α → α) (left : Option (α × ω)) (a : α) :
    List (ω × α) → α
  | [] => settle a
  | (op, b) :: rest =>
      if tight op then climb tight join left (join op a b) rest
      else climb tight join (some (settle a, op)) b rest
where
  /-- Joins what waits with the operations after it. -/
  settle (a : α) : α :=
    match left with
    | none => a
    | some (b, op) => join op b a

/-- Joins expressions by arithmetic operators. -/
def joinMath (op : MathOp) (a b : Expr) : Expr :=
  .ofTerm (.math op a b)

/-- Joins expressions by `or` and `and`. -/
def joinLogic (op : LogicOp) (a b : Expr) : Expr :=
  .ofTerm (.logic op a b)

/-! ## Expressions -/

/-- Gives a term its filters. -/
def filtered (filters : List Call) (term : Term) : Expr :=
  .mk term false filters

mutual

/-- Reads an expression whose parts are nested no deeper than the given number. -/
def logicExpr : Nat → Reader Expr
  | 0 => fun _ => none
  | depth + 1 => fun cs =>
      match logicValue depth (skipGap cs) with
      | none => none
      | some (first, cs) =>
          let (rest, cs) := operations connective (logicValue depth) cs
          some (climb (· = .and) joinLogic none first rest, cs)

/-- Reads an operand of `or` and `and`. -/
def logicValue : Nat → Reader Expr
  | 0 => fun _ => none
  | depth + 1 => fun cs =>
      let cs := skipGap cs
      let simple : Reader Expr := firstOf [membership depth, compared depth]
      match word "not" cs with
      | some rest => (simple rest).map fun (e, rest) => (e.negate, rest)
      | none => firstOf [simple, inParentheses (logicExpr depth)] cs

/-- Reads a question whether something is in a container. -/
def membership : Nat → Reader Expr
  | 0 => fun _ => none
  | depth + 1 => fun cs =>
      match firstOf [textExpr depth, mathExpr depth] cs with
      | none => none
      | some (item, cs) =>
          let (negated, cs) := match word "not" cs with
            | some cs => (true, cs)
            | none => (false, cs)
          match next "in" cs with
          | none => none
          | some cs =>
              let container : Reader Expr := firstOf
                [textExpr depth, arrayExpr depth,
                  fun cs => (reference cs).map fun (r, cs) => (.ofTerm (.reference r), cs)]
              (container (skipGap cs)).map fun (container, cs) =>
                (.ofTerm (.isIn negated item container), cs)

/-- Reads an operand, or two with a comparison between them. -/
def compared : Nat → Reader Expr
  | 0 => fun _ => none
  | depth + 1 => fun cs =>
      let operand : Reader Expr := fun cs =>
        firstOf [textExpr depth, sum depth] (skipGap cs)
      match operand cs with
      | none => none
      | some (left, cs) =>
          match comparison cs with
          | none => some (left, cs)
          | some (op, after) =>
              match operand after with
              | none => some (left, cs)
              | some (right, cs) => some (.ofTerm (.logic op left right), cs)

/-- Reads arithmetic whose operands can have filters. -/
def sum : Nat → Reader Expr
  | 0 => fun _ => none
  | depth + 1 => fun cs =>
      match mathExpr depth cs with
      | none => none
      | some (first, cs) =>
          let (rest, cs) := operations mathOp (fun cs => mathExpr depth (skipGap cs)) cs
          some (climb MathOp.isTight joinMath none first rest, cs)

/-- Reads arithmetic with the filters after it. -/
def mathExpr : Nat → Reader Expr
  | 0 => fun _ => none
  | depth + 1 => fun cs =>
      match mathTerm depth cs with
      | none => none
      | some (term, cs) =>
          let (filters, cs) := many (filterCall depth) cs.length cs
          some (filtered filters term, cs)

/-- Reads arithmetic without filters. -/
def mathTerm : Nat → Reader Term
  | 0 => fun _ => none
  | depth + 1 => fun cs =>
      let operand : Reader Expr := fun cs =>
        (firstOf [inParentheses (fun cs => mathTerm depth (skipGap cs)), basic depth]
          (skipGap cs)).map fun (term, cs) => (.ofTerm term, cs)
      match operand cs with
      | none => none
      | some (first, cs) =>
          let (rest, cs) := operations mathOp operand cs
          some ((climb MathOp.isTight joinMath none first rest).term, cs)

/-- Reads an operand of arithmetic. -/
def basic : Nat → Reader Term
  | 0 => fun _ => none
  | depth + 1 =>
      firstOf
        [fun cs => (truth cs).map fun (b, cs) => (.bool b, cs),
          testTerm depth,
          macroTerm depth,
          fun cs => (namedCall depth cs).map fun (c, cs) => (.call c, cs),
          fun cs => (reference cs).map fun (r, cs) => (.reference r, cs),
          fun cs => (decimal cs).map fun (x, cs) => (.float x, cs),
          fun cs => (integer cs).map fun (n, cs) => (.int n, cs)]

/-- Reads a test of a reference. -/
def testTerm : Nat → Reader Term
  | 0 => fun _ => none
  | depth + 1 => fun cs =>
      match reference cs with
      | none => none
      | some (subject, cs) =>
          match next "is" cs with
          | none => none
          | some cs =>
              let call (negated : Bool) (cs : List Char) : Option (Term × List Char) :=
                (testCall depth cs).map fun ((name, args), cs) =>
                  (.test negated subject name args, cs)
              match (next "not" cs).bind (call true) with
              | some result => some result
              | none => call false cs

/-- Reads the name of a test and its arguments. -/
def testCall : Nat → Reader (String × List Expr)
  | 0 => fun _ => none
  | depth + 1 => fun cs =>
      match nextName cs with
      | none => none
      | some (name, cs) =>
          let args : Reader (List Expr) := fun cs =>
            match argument depth cs with
            | none => none
            | some (first, cs) =>
                let (rest, cs) := many (fun cs => (next "," cs).bind (argument depth)) cs.length cs
                some (first :: rest, cs)
          match inParentheses args cs with
          | some (args, cs) => some ((name, args), cs)
          | none => some ((name, []), cs)

/-- Reads the call of a macro. -/
def macroTerm : Nat → Reader Term
  | 0 => fun _ => none
  | depth + 1 => fun cs =>
      match name cs with
      | none => none
      | some (library, cs) =>
          match next "::" cs with
          | none => none
          | some cs =>
              (namedCall depth (skipGap cs)).map fun (call, cs) => (.macroCall library call, cs)

/-- Reads a name with arguments in parentheses. -/
def namedCall : Nat → Reader Call
  | 0 => fun _ => none
  | depth + 1 => fun cs =>
      match name cs with
      | none => none
      | some (callee, cs) =>
          (inParentheses (namedArgs depth) cs).map fun (args, cs) => (.mk callee args, cs)

/-- Reads arguments by name, with commas between them and possibly one after the last. -/
def namedArgs : Nat → Reader (List (String × Expr))
  | 0 => fun _ => none
  | depth + 1 => fun cs =>
      let arg : Reader (String × Expr) := fun cs =>
        match nextName cs with
        | none => none
        | some (key, cs) =>
            ((next "=" cs).bind (argument depth)).map fun (value, cs) => ((key, value), cs)
      match arg cs with
      | none => some ([], cs)
      | some (first, cs) =>
          let (rest, cs) := many (fun cs => (next "," cs).bind arg) cs.length cs
          some (first :: rest, (next "," cs).getD cs)

/-- Reads the value of an argument. -/
def argument : Nat → Reader Expr
  | 0 => fun _ => none
  | depth + 1 => fun cs => firstOf [logicExpr depth, arrayExpr depth] (skipGap cs)

/-- Reads a filter behind its bar. -/
def filterCall : Nat → Reader Call
  | 0 => fun _ => none
  | depth + 1 => fun cs =>
      match next "|" cs with
      | none => none
      | some cs => calleeOrCall depth (skipGap cs)

/-- Reads a name with or without arguments. -/
def calleeOrCall : Nat → Reader Call
  | 0 => fun _ => none
  | depth + 1 =>
      firstOf [namedCall depth, fun cs => (name cs).map fun (callee, cs) => (.mk callee [], cs)]

/-- Reads a text, or several parts joined by tildes, with the filters after it. -/
def textExpr : Nat → Reader Expr
  | 0 => fun _ => none
  | depth + 1 => fun cs =>
      let text : Reader Term := firstOf
        [concatenation depth, fun cs => (quoted cs).map fun (text, cs) => (.string text, cs)]
      match text cs with
      | none => none
      | some (term, cs) =>
          let (filters, cs) := many (filterCall depth) cs.length cs
          some (filtered filters term, cs)

/-- Reads at least two parts joined by tildes. -/
def concatenation : Nat → Reader Term
  | 0 => fun _ => none
  | depth + 1 => fun cs =>
      let part : Reader Term := firstOf
        [fun cs => (namedCall depth cs).map fun (c, cs) => (.call c, cs),
          fun cs => (decimal cs).map fun (x, cs) => (.float x, cs),
          fun cs => (integer cs).map fun (n, cs) => (.int n, cs),
          fun cs => (quoted cs).map fun (text, cs) => (.string text, cs),
          fun cs => (reference cs).map fun (r, cs) => (.reference r, cs)]
      match part cs with
      | none => none
      | some (first, cs) =>
          match many (fun cs => (next "~" cs).bind fun cs => part (skipGap cs)) cs.length cs with
          | ([], _) => none
          | (rest, cs) => some (.concat (first :: rest), cs)

/-- Reads an array with the filters after it. -/
def arrayExpr : Nat → Reader Expr
  | 0 => fun _ => none
  | depth + 1 => fun cs =>
      match next "[" cs with
      | none => none
      | some cs =>
          let item : Reader Expr := logicValue depth
          let (items, cs) := many
            (fun cs =>
              match item cs with
              | none => none
              | some (e, cs) => (next "," cs).map fun cs => (e, cs))
            cs.length cs
          let (last, cs) := match item cs with
            | some (e, cs) => ([e], cs)
            | none => ([], cs)
          match next "]" cs with
          | none => none
          | some cs =>
              let (filters, cs) := many (filterCall depth) cs.length cs
              some (filtered filters (.array (items ++ last)), cs)

end

/-- A bound for the nesting of the parts of an expression: each of its characters nests less than
this many readers. -/
def depthOf (cs : List Char) : Nat :=
  16 * (cs.length + 1)

/-- Reads a value that can be printed or assigned. -/
def value : Reader Expr := fun cs =>
  argument (depthOf cs) cs

/-- Reads a condition. -/
def condition : Reader Expr := fun cs =>
  logicExpr (depthOf cs) cs

/-- Reads a container to iterate over. -/
def container : Reader Expr := fun cs =>
  firstOf [mathExpr (depthOf cs), arrayExpr (depthOf cs)] (skipGap cs)

/-- Reads a filter with or without arguments. -/
def filter : Reader Call := fun cs =>
  calleeOrCall (depthOf cs) (skipGap cs)

end Reader

end ClientGen.Template
