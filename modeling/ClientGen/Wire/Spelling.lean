import ClientGen.Wire.Encoding

/-!
# All the encodings of a message

The format leaves a writer some freedom.  Integers can be longer than they need to be, the fields of
a message can come in any order as long as those with the same number keep theirs, an empty text can
be written where it could be left out, and integers can be packed into a block or stand on their
own.  Between the fields of a message others can stand that it does not declare, groups among them;
these are skipped, and one of them takes a level below the message or the group that it is in.
-/

namespace ClientGen.Wire

/-! ## Tokens -/

/-- The bytes spell a number to the base 128, the low digits first. -/
inductive Spells : Nat → List UInt8 → Prop
  | last {b : UInt8} (h : b < 128) : Spells b.toNat [b]
  | more {b : UInt8} {n : Nat} {rest : List UInt8} (h : ¬b < 128) (hrest : Spells n rest) :
      Spells (b.toNat - 128 + 128 * n) (b :: rest)

/-- The bytes spell a 64 bit integer. -/
structure SpellsVarint (n : UInt64) (bytes : List UInt8) : Prop where
  spells : Spells n.toNat bytes
  length : bytes.length ≤ 10

/-- The bytes are what follows the key of a token. -/
inductive SpellsPayload : Token → List UInt8 → Prop
  | varint {n : UInt64} {bytes : List UInt8} (h : SpellsVarint n bytes) :
      SpellsPayload (.varint n) bytes
  | fixed64 {payload : List UInt8} (h : payload.length = 8) :
      SpellsPayload (.fixed64 payload) payload
  | block {n : UInt64} {bytes payload : List UInt8} (h : SpellsVarint n bytes)
      (hlength : n.toNat = payload.length) : SpellsPayload (.block payload) (bytes ++ payload)
  | openGroup : SpellsPayload .openGroup []
  | closeGroup : SpellsPayload .closeGroup []
  | fixed32 {payload : List UInt8} (h : payload.length = 4) :
      SpellsPayload (.fixed32 payload) payload

/-- The bytes are some tokens with their keys. -/
inductive SpellsTokens : List (Nat × Token) → List UInt8 → Prop
  | nil : SpellsTokens [] []
  | cons {number : Nat} {token : Token} {tokens : List (Nat × Token)}
      {key payload bytes : List UInt8} (hpos : 0 < number) (hlt : number < Nat.pow 2 29)
      (hkey : SpellsVarint (UInt64.ofNat (8 * number + token.wireType)) key)
      (hpayload : SpellsPayload token payload) (hrest : SpellsTokens tokens bytes) :
      SpellsTokens ((number, token) :: tokens) (key ++ payload ++ bytes)

/-! ## Fields that are skipped -/

/-- Does the token hold something by itself? -/
def Token.isValue : Token → Bool
  | .openGroup | .closeGroup => false
  | _ => true

/-- A field that is skipped within so many levels: a value, or a group of such fields that lie one
level deeper. -/
def SkippedField : (limit : Nat) → (number : Nat) → List (Nat × Token) → Prop
  | 0, _, _ => False
  | limit + 1, number, tokens =>
      (∃ token : Token, token.isValue = true ∧ tokens = [(number, token)]) ∨
        ∃ fields : List (List (Nat × Token)),
          (∀ field ∈ fields, ∃ number, SkippedField limit number field) ∧
            tokens = (number, .openGroup) :: fields.flatten ++ [(number, .closeGroup)]

/-- Some tokens with fields between them that are not declared. -/
inductive Padded (limit : Nat) (declared : List Nat) :
    List (Nat × Token) → List (Nat × Token) → Prop
  | nil : Padded limit declared [] []
  | declared {number : Nat} {token : Token} {known tokens : List (Nat × Token)}
      (hnumber : number ∈ declared) (hrest : Padded limit declared known tokens) :
      Padded limit declared ((number, token) :: known) ((number, token) :: tokens)
  | skipped {number : Nat} {field known tokens : List (Nat × Token)}
      (hnumber : number ∉ declared) (hfield : SkippedField limit number field)
      (hrest : Padded limit declared known tokens) :
      Padded limit declared known (field ++ tokens)

/-! ## Messages -/

/-- The same tokens, but those with different numbers can have changed places. -/
def Rearranged (tokens tokens' : List (Nat × Token)) : Prop :=
  ∀ number, tokens.filter (·.1 = number) = tokens'.filter (·.1 = number)

/-- The bytes spell some integers one after the other. -/
inductive SpellsIntegers : List Int32 → List UInt8 → Prop
  | nil : SpellsIntegers [] []
  | cons {n : Int32} {ns : List Int32} {bytes rest : List UInt8}
      (h : SpellsVarint (widen n) bytes) (hrest : SpellsIntegers ns rest) :
      SpellsIntegers (n :: ns) (bytes ++ rest)

/-- The tokens of a field hold its content, given what the encodings of nested messages are. -/
inductive Holds (encodes : List Nat → Fields → List UInt8 → Prop) : Content → List Token → Prop
  | text {s : String} : Holds encodes (.text s) [.block (Text.Utf8.encode s)]
  | plain {s : String} : Holds encodes (.plain s) [.block (Text.Utf8.encode s)]
  | empty : Holds encodes (.plain "") []
  | integer {n : Int32} : Holds encodes (.integer n) [.varint (widen n)]
  | truth {b : Bool} : Holds encodes (.truth b) [.varint (if b then 1 else 0)]
  | packed {ns : List Int32} {payload : List UInt8} (h : SpellsIntegers ns payload) :
      Holds encodes (.integers ns) [.block payload]
  | unpacked {ns : List Int32} :
      Holds encodes (.integers ns) (ns.map fun n => .varint (widen n))
  | message {declared : List Nat} {fields : Fields} {payload : List UInt8}
      (h : encodes declared fields payload) :
      Holds encodes (.message declared fields) [.block payload]

/-- The tokens of some fields, in the order of these. -/
inductive Written (encodes : List Nat → Fields → List UInt8 → Prop) :
    Fields → List (Nat × Token) → Prop
  | nil : Written encodes [] []
  | cons {number : Nat} {content : Content} {fields : Fields} {tokens : List Token}
      {more : List (Nat × Token)} (h : Holds encodes content tokens)
      (hrest : Written encodes fields more) :
      Written encodes ((number, content) :: fields) (tokens.map (number, ·) ++ more)

/-- The bytes are an encoding of some fields within so many levels, given what the encodings of
nested messages are. -/
def EncodesWith (encodes : List Nat → Fields → List UInt8 → Prop) (limit : Nat)
    (declared : List Nat) (fields : Fields) (bytes : List UInt8) : Prop :=
  ∃ written known tokens, Written encodes fields written ∧ Rearranged known written ∧
    Padded limit declared known tokens ∧ SpellsTokens tokens bytes

/-- The bytes are an encoding of some fields within so many levels: nested messages, and fields that
are not declared, lie below the message that they are in. -/
def Encodes : (limit : Nat) → (declared : List Nat) → Fields → List UInt8 → Prop
  | 0 => EncodesWith (fun _ _ _ => False) 0
  | limit + 1 => EncodesWith (Encodes limit) (limit + 1)

end ClientGen.Wire
