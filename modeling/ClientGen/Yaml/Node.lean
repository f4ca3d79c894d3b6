import ClientGen.Yaml.Token

/-!
# Nodes

A document is a tree of scalars, sequences and mappings.  An anchor gives a node a number and an
alias refers to a number: that of the latest anchor of its name.  Anchors are numbered by how many
different names there were before, so an anchor that takes up an old name shares its number with the
next new one; the later node then has the number.
-/

namespace ClientGen.Yaml

/-- A node of a document. -/
inductive Node where
  | scalar (anchor : Option Nat) (text : String) (plain : Bool)
  | sequence (anchor : Option Nat) (items : List Node)
  | mapping (anchor : Option Nat) (members : List (Node × Node))
  | reference (number : Nat)
deriving Inhabited, Repr

namespace Node

/-- What stands where a node is left out. -/
def blank : Node :=
  scalar none "" true

mutual

/-- The last node with a number, in the order in which nodes begin. -/
def find? (number : Nat) : Node → Option Node
  | scalar anchor text plain =>
      if anchor = some number then some (scalar anchor text plain) else none
  | sequence anchor items =>
      match findIn? number items with
      | some node => some node
      | none => if anchor = some number then some (sequence anchor items) else none
  | mapping anchor members =>
      match findAmong? number members with
      | some node => some node
      | none => if anchor = some number then some (mapping anchor members) else none
  | reference _ => none

/-- The last node with a number in a list. -/
def findIn? (number : Nat) : List Node → Option Node
  | [] => none
  | item :: items =>
      match findIn? number items with
      | some node => some node
      | none => find? number item

/-- The last node with a number in the members of a mapping. -/
def findAmong? (number : Nat) : List (Node × Node) → Option Node
  | [] => none
  | (key, value) :: members =>
      match findAmong? number members with
      | some node => some node
      | none =>
          match find? number value with
          | some node => some node
          | none => find? number key

end

end Node

/-! ## Reading -/

/-- What is known while tokens are read. -/
structure Reader where
  tokens : List Token
  /-- The number of the latest anchor of each name. -/
  anchors : List (String × Nat) := []
  /-- The handles that tags can have. -/
  handles : List String := ["!", "!!"]

/-- A step of reading, which fails on tokens that do not belong there. -/
abbrev Read (α : Type) := StateT Reader Option α

namespace Read

/-- The next token. -/
def peek : Read (Option Token) := do
  return (← get).tokens.head?

/-- Passes over a token. -/
def skip : Read Unit :=
  modify fun r => { r with tokens := r.tokens.tail }

/-- Passes over a token if it is the next one. -/
def accept (token : Token) : Read Bool := do
  if (← peek) = some token then
    skip
    return true
  else return false

/-- Is one of these tokens next? -/
def nextIn (tokens : List Token) : Read Bool := do
  return (← peek).any (· ∈ tokens)

/-- Numbers an anchor. -/
def define (name : String) : Read Nat := do
  let r ← get
  let number := r.anchors.length
  set { r with anchors := (name, number) :: r.anchors.filter (·.1 ≠ name) }
  return number

/-- The number that an alias refers to. -/
def refer (name : String) : Read Nat := do
  match (← get).anchors.lookup name with
  | some number => return number
  | none => failure

/-- Reads an anchor. -/
def anchor : Read (Option String) := do
  match ← peek with
  | some (.anchor name) =>
      skip
      return some name
  | _ => return none

/-- Reads a tag and says whether there is one.  Its handle must be known. -/
def tag : Read Bool := do
  match ← peek with
  | some (.tag handle) =>
      if handle = "" ∨ handle ∈ (← get).handles then
        skip
        return true
      else failure
  | _ => return false

/-- Reads an anchor and a tag in any order. -/
def properties : Read (Option String × Bool) := do
  match ← anchor with
  | some name => return (some name, ← tag)
  | none =>
      if ← tag then return (← anchor, true) else return (none, false)

mutual

/-- Reads a node.  `block` allows block collections; `flush` allows a sequence of items that are not
indented. -/
def node (block flush : Bool) : Nat → Read Node
  | 0 => failure
  | fuel + 1 => do
      match ← peek with
      | some (.reference name) =>
          skip
          return .reference (← refer name)
      | _ => pure ()
      let (name, tagged) ← properties
      let content : Bool := match ← peek with
        | some (.scalar _ _) | some .openBracket | some .openBrace => true
        | some .entry => flush
        | some .sequenceStart | some .mappingStart => block
        | _ => false
      if !content && name.isNone && !tagged then failure
      let number ← match name with
        | some name => do pure (some (← define name))
        | none => pure none
      if !content then return .scalar number "" true
      match ← peek with
      | some (.scalar text plain) =>
          skip
          return .scalar number text plain
      | some .entry => return .sequence number (← flushItems fuel)
      | some .sequenceStart =>
          skip
          return .sequence number (← blockItems fuel)
      | some .mappingStart =>
          skip
          return .mapping number (← blockMembers fuel)
      | some .openBracket =>
          skip
          return .sequence number (← flowItems true fuel)
      | _ =>
          skip
          return .mapping number (← flowMembers true fuel)

/-- Reads a node unless one of some tokens shows that it is left out. -/
def nodeUnless (stops : List Token) (block flush : Bool) : Nat → Read Node
  | 0 => failure
  | fuel + 1 => do
      if ← nextIn stops then return .blank else node block flush fuel

/-- Reads the items of an indented block sequence. -/
def blockItems : Nat → Read (List Node)
  | 0 => failure
  | fuel + 1 => do
      if ← accept .entry then
        let item ← nodeUnless [.entry, .blockEnd] true false fuel
        return item :: (← blockItems fuel)
      else if ← accept .blockEnd then return []
      else failure

/-- Reads the items of a block sequence that is not indented. -/
def flushItems : Nat → Read (List Node)
  | 0 => failure
  | fuel + 1 => do
      if ← accept .entry then
        let item ← nodeUnless [.entry, .key, .value, .blockEnd] true false fuel
        return item :: (← flushItems fuel)
      else return []

/-- Reads the members of a block mapping. -/
def blockMembers : Nat → Read (List (Node × Node))
  | 0 => failure
  | fuel + 1 => do
      if ← accept .key then
        let key ← nodeUnless [.key, .value, .blockEnd] true true fuel
        let value ←
          if ← accept .value then nodeUnless [.key, .value, .blockEnd] true true fuel
          else pure .blank
        return (key, value) :: (← blockMembers fuel)
      else if ← accept .blockEnd then return []
      else failure

/-- Reads the items of a flow sequence.  An item with a key is a mapping of one member. -/
def flowItems (first : Bool) : Nat → Read (List Node)
  | 0 => failure
  | fuel + 1 => do
      if ← accept .closeBracket then return []
      if !first then
        if !(← accept .comma) then failure
      if ← accept .closeBracket then return []
      if ← accept .key then
        let pair ← flowPair fuel
        return .mapping none [pair] :: (← flowItems false fuel)
      else
        let item ← node false false fuel
        return item :: (← flowItems false fuel)

/-- Reads a member that stands alone in a flow sequence.  Where the key is left out, so is the mark
after it. -/
def flowPair : Nat → Read (Node × Node)
  | 0 => failure
  | fuel + 1 => do
      let key ←
        if ← nextIn [.value, .comma, .closeBracket] then do
          skip
          pure .blank
        else node false false fuel
      let value ←
        if ← accept .value then nodeUnless [.comma, .closeBracket] false false fuel
        else pure .blank
      return (key, value)

/-- Reads the members of a flow mapping. -/
def flowMembers (first : Bool) : Nat → Read (List (Node × Node))
  | 0 => failure
  | fuel + 1 => do
      if ← accept .closeBrace then return []
      if !first then
        if !(← accept .comma) then failure
      if ← accept .closeBrace then return []
      if ← accept .key then
        let key ← nodeUnless [.value, .comma, .closeBrace] false false fuel
        let value ←
          if ← accept .value then nodeUnless [.comma, .closeBrace] false false fuel
          else pure .blank
        return (key, value) :: (← flowMembers false fuel)
      else
        let key ← node false false fuel
        return (key, .blank) :: (← flowMembers false fuel)

end

/-! ## Documents -/

/-- Reads the directives before a document: at most one version, which must be 1.1 or 1.2, and each
handle at most once. -/
def directives (version : Bool) (declared : List String) : List Token → Option (List String × List Token)
  | .version major minor :: tokens =>
      if version || major ≠ 1 || (minor ≠ 1 && minor ≠ 2) then none
      else directives true declared tokens
  | .tagHandle handle :: tokens =>
      if handle ∈ declared then none else directives version (handle :: declared) tokens
  | tokens => some (declared, tokens)

/-- Is there no content before this token? -/
def endsDocument : Option Token → Bool
  | none | some (.version _ _) | some (.tagHandle _) | some .documentStart | some .documentEnd =>
      true
  | _ => false

/-- A bound for the steps of reading some tokens. -/
def steps (tokens : List Token) : Nat :=
  4 * tokens.length + 4

/-- Reads the content of a document that may be left out. -/
def content : Read Node := do
  if endsDocument (← peek) then return .blank
  else node true false (steps (← get).tokens)

/-- Reads the one document of some tokens; none if there are no tokens. -/
def document (tokens : List Token) : Option (Option Node) :=
  match tokens with
  | [] => some none
  | first :: _ =>
      let read : Option (Node × Reader) :=
        match first with
        | .version _ _ | .tagHandle _ | .documentStart =>
            match directives false [] tokens with
            | some (declared, .documentStart :: tokens) =>
                content.run { tokens, handles := declared ++ ["!", "!!"] }
            | _ => none
        | _ => (node true false (steps tokens)).run { tokens }
      match read with
      | some (node, r) =>
          if r.tokens.all (· = .documentEnd) then some (some node) else none
      | none => none

end Read

/-- The document of a text; none if the text has nothing but white space and comments. -/
def document (text : String) : Option (Option Node) :=
  (tokens text).bind Read.document

end ClientGen.Yaml
