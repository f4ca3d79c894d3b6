import ClientGen.Template.Builtin
import ClientGen.Template.Context
import ClientGen.Template.Library

/-!
# Rendering templates

Rendering walks through a template with a stack of frames that hold the names in reach.  A loop and
an included template can use the names around them.  A macro has only its parameters and the context
that all templates share.

The template at the end of the chain of inheritance is the one that is walked through.  A block is
taken from the template nearest to the one that was asked for.
-/

namespace ClientGen.Template

/-! ## Frames -/

/-- The iteration of a loop. -/
structure Iteration where
  keyName : Option String
  key : String
  valueName : String
  value : Value
  index : Nat
  isLast : Bool

/-- What a frame belongs to. -/
inductive Scope where
  | origin
  | macroCall
  | included
  | loop (iteration : Iteration)

/-- The names that one part of a template brings with it. -/
structure Frame where
  scope : Scope
  names : Table String Value := ∅
  /-- The template that the part belongs to. -/
  template : String

/-- A block that is being rendered: the template it was taken from, and how far up the chain of
inheritance that is. -/
structure BlockUse where
  name : String
  template : String
  level : Nat

/-- What changes while a template is rendered. -/
structure State where
  /-- The frames, the innermost first. -/
  frames : List Frame
  /-- The blocks that have been entered, the latest first. -/
  blocks : List BlockUse := []

/-- What is rendered. -/
structure Job where
  library : Library
  context : Context
  /-- The template that was asked for. -/
  template : Template

namespace Job

/-- The templates that the one asked for inherits from, the nearest first. -/
def ancestors (j : Job) : List Template :=
  j.library.ancestors j.template

/-- The template at the end of the chain of inheritance. -/
def root (j : Job) : Template :=
  j.ancestors.getLast?.getD j.template

end Job

namespace Iteration

/-- What a name leads to in an iteration. -/
def find? (i : Iteration) (root : String) (names : List String) : Option Value :=
  match root, names with
  | "loop", ["index"] => some (.int (i.index + 1 : Nat))
  | "loop", ["index0"] => some (.int i.index)
  | "loop", ["first"] => some (.bool (i.index = 0))
  | "loop", ["last"] => some (.bool i.isLast)
  | root, names =>
      if i.keyName = some root ∧ names = [] then some (.string i.key)
      else if i.valueName = root then i.value.at? names
      else none

end Iteration

namespace Frame

/-- What a name leads to in a frame; assigned names come before those of the loop. -/
def find? (f : Frame) (root : String) (names : List String) : Option Value :=
  match (f.names.get? root).bind (·.at? names), f.scope with
  | some value, _ => some value
  | none, .loop iteration => iteration.find? root names
  | none, _ => none

/-- Is nothing but the shared context in reach behind the frame? -/
def isClosed (f : Frame) : Bool :=
  match f.scope with
  | .origin | .macroCall => true
  | _ => false

/-- Does the frame belong to a loop? -/
def isLoop (f : Frame) : Bool :=
  match f.scope with
  | .loop _ => true
  | _ => false

/-- A frame with another value for a name. -/
def assign (f : Frame) (name : String) (value : Value) : Frame :=
  { f with names := f.names.insert name value }

end Frame

/-- What a name leads to. -/
def findName (context : Context) : List Frame → String → List String → Option Value
  | [], root, names => (context.get? root).bind (·.at? names)
  | f :: frames, root, names =>
      match f.find? root names with
      | some value => some value
      | none =>
          if f.isClosed then (context.get? root).bind (·.at? names)
          else findName context frames root names

/-- Assigns a name in the nearest frame outside of loops. -/
def assignOutside (name : String) (value : Value) : List Frame → List Frame
  | [] => []
  | f :: frames =>
      if f.isLoop then f :: assignOutside name value frames else f.assign name value :: frames

/-- Assigns a name in the innermost frame. -/
def assignInside (name : String) (value : Value) : List Frame → List Frame
  | [] => []
  | f :: frames => f.assign name value :: frames

mutual

/-- What a reference leads to. -/
def Reference.value? (find : String → List String → Option Value) : Reference → Option Value
  | .mk root steps => (RefStep.names? find steps).bind (find root)

/-- The names that some steps follow. -/
def RefStep.names? (find : String → List String → Option Value) :
    List RefStep → Option (List String)
  | [] => some []
  | step :: steps =>
      match step.name? find, RefStep.names? find steps with
      | some name, some names => some (name :: names)
      | _, _ => none

/-- The name that a step follows. -/
def RefStep.name? (find : String → List String → Option Value) : RefStep → Option String
  | .member name => some name
  | .computed reference =>
      match reference.value? find with
      | some (.string s) => some s
      | some value => (Number.ofValue? value).map Number.text
      | none => none

end

/-! ## Rendering -/

/-- How rendering goes on after some nodes. -/
inductive Flow where
  | proceed
  /-- The loop ends. -/
  | leave
  /-- The loop goes on with the next iteration. -/
  | again
deriving DecidableEq

/-- A step of rendering, which can fail. -/
abbrev Rendering (α : Type) := StateT State Option α

namespace Rendering

/-- What a reference leads to. -/
def find (j : Job) (r : Reference) : Rendering (Option Value) := do
  return r.value? (findName j.context (← get).frames)

/-- The value, or failure if there is none. -/
def require {α : Type} : Option α → Rendering α
  | some a => return a
  | none => failure

/-- Does something with one more frame, which is gone afterwards. -/
def within {α : Type} (f : Frame) (body : Rendering α) : Rendering α := do
  modify fun s => { s with frames := f :: s.frames }
  let a ← body
  modify fun s => { s with frames := s.frames.tail }
  return a

/-- The template that the innermost frame belongs to. -/
def activeTemplate : Rendering String := do
  return ((← get).frames.head?.map (·.template)).getD ""

/-- Does something, or gives a value if that fails. -/
def orElse {α : Type} (body : Rendering α) (otherwise : α) : Rendering α := fun s =>
  match body s with
  | some result => some result
  | none => some (otherwise, s)

/-- The text of some nodes that must be rendered to their end. -/
def toEnd (body : Rendering (String × Flow)) : Rendering String := do
  let (text, flow) ← body
  if flow = .proceed then return text else failure

/-- Renders nodes one after the other, until one of them leaves the body of a loop. -/
def inSequence (render : Node → Rendering (String × Flow)) : List Node → Rendering (String × Flow)
  | [] => return ("", .proceed)
  | node :: nodes => do
      let (text, flow) ← render node
      if flow ≠ .proceed then return (text, flow)
      let (more, flow) ← inSequence render nodes
      return (text ++ more, flow)

/-- Renders the body of a loop for each iteration, until one of them leaves the loop. -/
def forEach (render : Iteration → Rendering (String × Flow)) : List Iteration → Rendering String
  | [] => return ""
  | iteration :: iterations => do
      let (text, flow) ← render iteration
      if flow = .leave then return text
      return text ++ (← forEach render iterations)

/-- The iterations of a loop with the entries of its container. -/
def iterationsOf (keyName : Option String) (valueName : String) (entries : List (String × Value)) :
    List Iteration :=
  entries.zipIdx.map fun ((key, value), index) =>
    { keyName, key, valueName, value, index, isLast := index + 1 = entries.length }

/-- Joins the characters of a text that belong together: a line break of two characters. -/
def charactersOf : List Char → List String
  | '\r' :: '\n' :: rest => "\r\n" :: charactersOf rest
  | c :: rest => String.ofList [c] :: charactersOf rest
  | [] => []

/-- The iterations over a container.  Only objects have keys, and they must be asked for. -/
def iterations? (keyName : Option String) (valueName : String) (container : Value) :
    Option (List Iteration) :=
  match container, keyName with
  | .array items, none => some (iterationsOf none valueName (items.map fun item => ("", item)))
  | .string s, none =>
      some (iterationsOf none valueName
        ((charactersOf s.toList).map fun c => ("", .string c)))
  | .object members, some key => some (iterationsOf (some key) valueName members)
  | _, _ => none

/-- Can a loop iterate over a term? -/
def isIterable : Term → Bool
  | .reference _ | .call _ | .array _ => true
  | _ => false

/-- Compares two values for equality.  A number is never equal to anything else. -/
def equalValues (equal : Bool) (a b : Value) : Bool :=
  match Number.ofValue? a, Number.ofValue? b with
  | some a, some b => (a.toFloat == b.toFloat) == equal
  | none, none => (a == b) == equal
  | _, _ => false

/-- Compares two numbers. -/
def compareNumbers (op : LogicOp) (a b : Float) : Bool :=
  match op with
  | .less => a < b
  | .lessOrEqual => a ≤ b
  | .greater => a > b
  | _ => a ≥ b

/-- Does arithmetic on two numbers.  The outer option is the error, the inner one a result that is
no number. -/
def calculate (op : MathOp) (a b : Number) : Option (Option Number) :=
  match op with
  | .add => Number.arithmetic (· + ·) (· + ·) a b
  | .sub => Number.arithmetic (· - ·) (· - ·) a b
  | .mul => Number.arithmetic (· * ·) (· * ·) a b
  | .div => some (Number.divide a b)
  | .mod => Number.modulo a b

/-- The number that a text names. -/
def numberOfText? (text : String) : Option Number :=
  let cs := Text.trim text.toList
  if cs.contains '.' then (Filter.readFloat? cs).map .float
  else (Filter.readInt? 10 cs).map .int

/-- The text of a value that can be joined to others. -/
def joinable? : Value → Option String
  | .string s => some s
  | value => (Number.ofValue? value).map Number.text

/-- The template whose macros a part can call: that of the block, if one has been entered, else the
root of the inheritance, else the template that the part belongs to. -/
def macroCaller (j : Job) : Rendering String := do
  match (← get).blocks with
  | use :: _ => return use.template
  | [] => if j.template.name ≠ j.root.name then return j.root.name else activeTemplate

/-- The block of a name in the templates from one level upwards. -/
def blockFrom? (name : String) : Nat → List Template → Option (BlockUse × List Node)
  | _, [] => none
  | level, t :: ts =>
      match t.blocks.lookup name with
      | some body => some (⟨name, t.name, level⟩, body)
      | none => blockFrom? name (level + 1) ts

/-- The templates in which a block of a template is looked for, the nearest first. -/
def blockSources (j : Job) (template : String) : List Template :=
  match j.library.get? template with
  | some t => t :: j.library.ancestors t
  | none => []

mutual

/-- The value of an expression.  All recursion is bounded by the first argument. -/
def eval (j : Job) : Nat → Expr → Rendering Value
  | 0, _ => failure
  | fuel + 1, e => do
      match e.term, e.filters with
      | .reference r, ⟨"default", args⟩ :: _ =>
          match ← find j r with
          | none | some .null =>
              let fallback ← require ((Call.mk "default" args).arg? "value")
              finish j fuel e (← eval j fuel fallback)
          | some value => finish j fuel e value
      | .reference r, _ =>
          match ← find j r with
          | some value => finish j fuel e value
          | none => if e.negated then return .bool true else failure
      | .logic _ _ _, _ => finish j fuel e (.bool (← decide j fuel e))
      | term, _ => finish j fuel e (← evalTerm j fuel term)

/-- Applies the filters of an expression to the value of its term, and its negation. -/
def finish (j : Job) : Nat → Expr → Value → Rendering Value
  | 0, _, _ => failure
  | fuel + 1, e, value => do
      let value ← e.filters.foldlM (applyFilter j fuel) value
      return if e.negated then .bool !value.isTruthy else value

/-- Applies a filter.  Two filters have no effect of their own. -/
def applyFilter (j : Job) : Nat → Value → Call → Rendering Value
  | 0, _, _ => failure
  | fuel + 1, value, filter => do
      if filter.name = "safe" ∨ filter.name = "default" then return value
      else require (Filter.apply filter.name (← evalArgs j fuel filter) value)

/-- The values of arguments. -/
def evalArgs (j : Job) : Nat → Call → Rendering Args
  | 0, _ => failure
  | fuel + 1, call => do
      let entries ← call.args.mapM fun (name, e) => do return (name, ← eval j fuel e)
      return (Table.ofList entries : Table String Value)

/-- The value of a term that is neither a reference nor a logical operation. -/
def evalTerm (j : Job) : Nat → Term → Rendering Value
  | 0, _ => failure
  | fuel + 1, term => do
      match term with
      | .string text => return .string text
      | .int n => return .int n
      | .float x => return .float x
      | .bool b => return .bool b
      | .reference r => require (← find j r)
      | .array items => return .array (← items.mapM (eval j fuel))
      | .concat parts => return .string (String.join (← parts.mapM (partText j fuel)))
      | .math _ _ _ =>
          match ← evalNumber j fuel term with
          | some n => return n.toValue
          | none => return .string "NaN"
      | .logic op a b => return .bool (← decide j fuel (.ofTerm (.logic op a b)))
      | .isIn negated item container =>
          return .bool (← decideIn j fuel negated item container)
      | .test negated subject name args =>
          return .bool (← decideTest j fuel negated subject name args)
      | .call call => evalCall j fuel call
      | .macroCall library call => return .string (← callMacro j fuel library call)

/-- The value of a function. -/
def evalCall (j : Job) : Nat → Call → Rendering Value
  | 0, _ => failure
  | fuel + 1, call => do
      require (callFunction call.name (← evalArgs j fuel call))

/-- The text of a term that is joined to others. -/
def partText (j : Job) : Nat → Term → Rendering String
  | 0, _ => failure
  | fuel + 1, term => do
      match term with
      | .string text => return text
      | .int n => return toString n
      | .float x => return Text.Shortest.display x
      | term => require (joinable? (← evalTerm j fuel term))

/-- Is something in a container? -/
def decideIn (j : Job) : Nat → Bool → Expr → Expr → Rendering Bool
  | 0, _, _, _ => failure
  | fuel + 1, negated, item, container => do
      let item ← eval j fuel item
      let container ← eval j fuel container
      return (← require (contains? container item)) != negated

/-- Does a test hold? -/
def decideTest (j : Job) : Nat → Bool → Reference → String → List Expr → Rendering Bool
  | 0, _, _, _, _ => failure
  | fuel + 1, negated, subject, name, args => do
      let args ← args.mapM (eval j fuel)
      return (← require (holds? name (← find j subject) args)) != negated

/-- The truth of an expression.  What a reference leads to counts as false if it cannot be
evaluated. -/
def decide (j : Job) : Nat → Expr → Rendering Bool
  | 0, _ => failure
  | fuel + 1, e => do
      let holds ← match e.term with
        | .logic .or a b => do
            if ← decide j fuel a then pure true else decide j fuel b
        | .logic .and a b => do
            if ← decide j fuel a then decide j fuel b else pure false
        | .logic .equal a b => do pure (equalValues true (← eval j fuel a) (← eval j fuel b))
        | .logic .notEqual a b => do pure (equalValues false (← eval j fuel a) (← eval j fuel b))
        | .logic op a b => do
            let a ← require (← evalNumberOf j fuel a)
            let b ← require (← evalNumberOf j fuel b)
            pure (compareNumbers op a.toFloat b.toFloat)
        | .reference _ => do
            let value ← orElse (eval j fuel e) (.bool false)
            pure (if e.negated then !value.isTruthy else value.isTruthy)
        | .math op a b => do
            pure ((← evalNumber j fuel (.math op a b)).any fun n => n.toFloat != 0.0)
        | .int n => pure (n ≠ 0)
        | .float x => pure (x != 0.0)
        | .isIn negated item container => decideIn j fuel negated item container
        | .test negated subject name args => decideTest j fuel negated subject name args
        | .bool b => pure b
        | .string text => pure (!text.isEmpty)
        | .call call => do
            match ← evalCall j fuel call with
            | .bool b => pure b
            | _ => failure
        | .concat parts => do pure (!(String.join (← parts.mapM (partText j fuel))).isEmpty)
        | .macroCall library call => do pure (!(← callMacro j fuel library call).isEmpty)
        | .array _ => failure
      return if e.negated then !holds else holds

/-- The number that an expression stands for; none if it is no number. -/
def evalNumberOf (j : Job) : Nat → Expr → Rendering (Option Number)
  | 0, _ => failure
  | fuel + 1, e => do
      if e.filters.isEmpty then evalNumber j fuel e.term
      else return some (← require (Number.ofValue? (← eval j fuel e)))

/-- The number that a term stands for; none if it is no number. -/
def evalNumber (j : Job) : Nat → Term → Rendering (Option Number)
  | 0, _ => failure
  | fuel + 1, term => do
      match term with
      | .reference r => return some (← require ((← find j r).bind Number.ofValue?))
      | .int n => return some (.int n)
      | .float x => return some (.float x)
      | .math op a b =>
          match ← evalNumberOf j fuel a, ← evalNumberOf j fuel b with
          | some a, some b => require (calculate op a b)
          | _, _ => return none
      | .macroCall library call =>
          return some (← require (numberOfText? (← callMacro j fuel library call)))
      | .call call => return some (← require (Number.ofValue? (← evalCall j fuel call)))
      | _ => failure

/-- The text of a macro. -/
def callMacro (j : Job) : Nat → String → Call → Rendering String
  | 0, _, _ => failure
  | fuel + 1, library, call => do
      let (template, m) ← require (j.library.macro? (← macroCaller j) library call.name)
      let names ← m.parameters.mapM fun p => do
        let e ← require ((call.arg? p.name).or (p.fallback.map Expr.ofTerm))
        return (p.name, ← eval j fuel e)
      let frame : Frame := { scope := .macroCall, names := Table.ofList names, template }
      within frame (toEnd (renderNodes j fuel m.body))

/-- Renders some nodes. -/
def renderNodes (j : Job) : Nat → List Node → Rendering (String × Flow)
  | 0, _ => failure
  | fuel + 1, nodes => inSequence (renderNode j fuel) nodes

/-- Renders a node. -/
def renderNode (j : Job) : Nat → Node → Rendering (String × Flow)
  | 0, _ => failure
  | fuel + 1, node => do
      match node with
      | .text text => return (text, .proceed)
      | .output e => return ((← eval j fuel e).text, .proceed)
      | .assign name global value =>
          let value ← eval j fuel value
          modify fun s =>
            { s with
              frames := if global then assignOutside name value s.frames
                else assignInside name value s.frames }
          return ("", .proceed)
      | .includeFile names ignoreMissing =>
          match names.findSome? j.library.get? with
          | some t =>
              let text ← within { scope := .included, template := t.name }
                (toEnd (renderNodes j fuel t.nodes))
              return (text, .proceed)
          | none => if ignoreMissing then return ("", .proceed) else failure
      | .branch cases otherwise => renderNodes j fuel (← chooseCase j fuel otherwise cases)
      | .loop key value container body empty =>
          if !isIterable container.term then failure
          match ← require (iterations? key value (← eval j fuel container)) with
          | [] => renderNodes j fuel empty
          | iterations =>
              let template ← activeTemplate
              let text ← forEach
                (fun i => within { scope := .loop i, template } (renderNodes j fuel body))
                iterations
              return (text, .proceed)
      | .filterText filter body =>
          let (text, flow) ← renderNodes j fuel body
          return ((← applyFilter j fuel (.string text) filter).text, flow)
      | .breakLoop =>
          if (← get).frames.head?.any Frame.isLoop then return ("", .leave) else failure
      | .continueLoop =>
          if (← get).frames.head?.any Frame.isLoop then return ("", .again) else failure
      | .block name body =>
          match blockFrom? name 0 (blockSources j (← activeTemplate)) with
          | some (use, body) =>
              modify fun s => { s with blocks := use :: s.blocks }
              renderNodes j fuel body
          | none => renderNodes j fuel body
      | .inheritedBlock =>
          let use ← require (← get).blocks.head?
          let (above, body) ←
            require (blockFrom? use.name (use.level + 1) (j.ancestors.drop use.level))
          modify fun s => { s with blocks := above :: s.blocks }
          let result ← renderNodes j fuel body
          let done := if j.ancestors.length ≤ above.level then 2 else 1
          modify fun s => { s with blocks := s.blocks.drop done }
          return result
      | .inherits _ => failure

/-- The body of the first case whose condition holds. -/
def chooseCase (j : Job) : Nat → List Node → List (Expr × List Node) → Rendering (List Node)
  | 0, _, _ => failure
  | fuel + 1, otherwise, cases =>
      match cases with
      | [] => return otherwise
      | (condition, body) :: cases => do
          if ← decide j fuel condition then return body else chooseCase j fuel otherwise cases

end

end Rendering

/-- How deep the parts of templates, the calls of macros among them, can be nested. -/
def depthLimit : Nat := 4000

/-- Renders a template of a library. -/
def Library.render (l : Library) (context : Context) (name : String) : Option String :=
  match l.get? name with
  | none => none
  | some t =>
      let j : Job := ⟨l, context, t⟩
      let start : State := { frames := [{ scope := .origin, template := name }] }
      ((Rendering.toEnd (Rendering.renderNodes j depthLimit j.root.nodes)).run start).map (·.1)

end ClientGen.Template
