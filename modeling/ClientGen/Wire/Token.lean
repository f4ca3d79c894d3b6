/-!
# Protocol buffers on the wire

A message is a sequence of tokens, each with a field number: a variable length integer, four or
eight bytes, a block of bytes with its length in front, or the start or end of a group.  Nothing
here knows which fields a message has.

Both directions are given: `readToken` takes a token from the front of some bytes, `Token.bytes`
writes one.
-/

namespace ClientGen.Wire

/-! ## Variable length integers -/

/-- Reads a number from at most `count` bytes, seven bits from each, the low bits first. -/
def readDigits : (count : Nat) → List UInt8 → Option (Nat × List UInt8)
  | 0, _ => none
  | _ + 1, [] => none
  | count + 1, b :: rest =>
      if b < 128 then some (b.toNat, rest)
      else
        match readDigits count rest with
        | some (n, rest) => some (b.toNat - 128 + 128 * n, rest)
        | none => none

/-- Reads a 64 bit integer, which takes at most ten bytes. -/
def readVarint (bytes : List UInt8) : Option (UInt64 × List UInt8) :=
  match readDigits 10 bytes with
  | some (n, rest) => if n < Nat.pow 2 64 then some (UInt64.ofNat n, rest) else none
  | none => none

/-- The digits of a number to the base 128, the low ones first, each but the last marked by its
high bit. -/
def digits (n : Nat) : List UInt8 :=
  if h : n < 128 then [UInt8.ofNat n]
  else UInt8.ofNat (128 + n % 128) :: digits (n / 128)
termination_by n
decreasing_by omega

/-- The bytes of a 64 bit integer. -/
def varint (n : UInt64) : List UInt8 :=
  digits n.toNat

/-! ## Tokens -/

/-- What a field number introduces. -/
inductive Token where
  | varint (value : UInt64)
  | fixed64 (payload : List UInt8)
  | block (payload : List UInt8)
  | openGroup
  | closeGroup
  | fixed32 (payload : List UInt8)
deriving DecidableEq, Repr

/-- The first `n` of some bytes, if there are as many. -/
def takeBytes (n : Nat) (bytes : List UInt8) : Option (List UInt8 × List UInt8) :=
  if n ≤ bytes.length then some (bytes.take n, bytes.drop n) else none

/-- Reads what a key announces.  The low three bits of the key are the wire type. -/
def readPayload (wireType : Nat) (bytes : List UInt8) : Option (Token × List UInt8) :=
  match wireType with
  | 0 => (readVarint bytes).map fun (n, rest) => (.varint n, rest)
  | 1 => (takeBytes 8 bytes).map fun (payload, rest) => (.fixed64 payload, rest)
  | 2 =>
      match readVarint bytes with
      | some (n, rest) => (takeBytes n.toNat rest).map fun (payload, rest) => (.block payload, rest)
      | none => none
  | 3 => some (.openGroup, bytes)
  | 4 => some (.closeGroup, bytes)
  | 5 => (takeBytes 4 bytes).map fun (payload, rest) => (.fixed32 payload, rest)
  | _ => none

/-- Reads a key and what it announces.  A key is a 32 bit number and field numbers start at one. -/
def readToken (bytes : List UInt8) : Option ((Nat × Token) × List UInt8) :=
  match readVarint bytes with
  | some (key, rest) =>
      let number := key.toNat / 8
      if key.toNat < Nat.pow 2 32 ∧ 0 < number then
        (readPayload (key.toNat % 8) rest).map fun (token, rest) => ((number, token), rest)
      else none
  | none => none

/-- Reads at most `count` tokens, up to the end of the bytes. -/
def readTokens : (count : Nat) → List UInt8 → Option (List (Nat × Token))
  | _, [] => some []
  | 0, _ :: _ => none
  | count + 1, bytes =>
      match readToken bytes with
      | some (token, rest) => (readTokens count rest).map (token :: ·)
      | none => none

/-- The tokens of a message.  Each takes at least one byte. -/
def tokens (bytes : List UInt8) : Option (List (Nat × Token)) :=
  readTokens bytes.length bytes

namespace Token

/-- The wire type that announces a token. -/
def wireType : Token → Nat
  | .varint _ => 0
  | .fixed64 _ => 1
  | .block _ => 2
  | .openGroup => 3
  | .closeGroup => 4
  | .fixed32 _ => 5

/-- The bytes after the key. -/
def payload : Token → List UInt8
  | .varint n => Wire.varint n
  | .fixed64 payload => payload
  | .block payload => digits payload.length ++ payload
  | .openGroup => []
  | .closeGroup => []
  | .fixed32 payload => payload

/-- The key and the bytes after it. -/
def bytes (number : Nat) (token : Token) : List UInt8 :=
  digits (8 * number + token.wireType) ++ token.payload

end Token

end ClientGen.Wire
