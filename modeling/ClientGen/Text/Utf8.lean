/-!
# UTF-8

Bytes as lists, read strictly (`decode?`) or with every malformed part replaced by `U+FFFD`
(`decodeLossy`).  A malformed part is the longest start of a character that is well formed so far,
or a single byte that starts none.
-/

namespace ClientGen.Text.Utf8

/-- The bytes of a text. -/
def encode (s : String) : List UInt8 :=
  s.toList.flatMap String.utf8EncodeChar

/-- Is the byte one that continues a character? -/
def isContinuation (b : UInt8) : Bool :=
  0x80 ≤ b && b ≤ 0xbf

/-- The bytes that may follow a leading byte of several: how many bytes follow and the range of the
first of them, which keeps out overlong forms, surrogates and numbers beyond the last character. -/
def following (lead : UInt8) : Option (Nat × UInt8 × UInt8) :=
  if 0xc2 ≤ lead && lead ≤ 0xdf then some (1, 0x80, 0xbf)
  else if lead = 0xe0 then some (2, 0xa0, 0xbf)
  else if lead = 0xed then some (2, 0x80, 0x9f)
  else if 0xe1 ≤ lead && lead ≤ 0xef then some (2, 0x80, 0xbf)
  else if lead = 0xf0 then some (3, 0x90, 0xbf)
  else if 0xf1 ≤ lead && lead ≤ 0xf3 then some (3, 0x80, 0xbf)
  else if lead = 0xf4 then some (3, 0x80, 0x8f)
  else none

/-- The bits that a leading byte contributes to a character of `n + 1` bytes. -/
def leadBits (n : Nat) (lead : UInt8) : Nat :=
  lead.toNat % Nat.pow 2 (6 - n)

/-- Adds the six bits of a continuation byte. -/
def addBits (value : Nat) (b : UInt8) : Nat :=
  value * 64 + b.toNat % 64

/-- What stands at the start of some bytes: a character and its length, or a malformed part and its
length. -/
inductive Head where
  | char (c : Char) (length : Nat)
  | malformed (length : Nat)
deriving DecidableEq, Repr

/-- Reads the continuation bytes of a character; `read` counts the bytes read so far. -/
def continueHead (value : Nat) (read : Nat) : Nat → List UInt8 → Head
  | 0, _ => .char (Char.ofNat value) read
  | _ + 1, [] => .malformed read
  | n + 1, b :: rest =>
      if isContinuation b then continueHead (addBits value b) (read + 1) n rest
      else .malformed read

/-- Reads the character at the start of nonempty bytes. -/
def head (lead : UInt8) (rest : List UInt8) : Head :=
  if lead < 0x80 then .char (Char.ofNat lead.toNat) 1
  else
    match following lead with
    | none => .malformed 1
    | some (n, low, high) =>
        match rest with
        | [] => .malformed 1
        | b :: rest =>
            if low ≤ b && b ≤ high then
              continueHead (addBits (leadBits n lead) b) 2 (n - 1) rest
            else .malformed 1

/-- The characters of the bytes, a malformed part given as `none`.  The first argument bounds the
number of characters. -/
def pieces : Nat → List UInt8 → List (Option Char)
  | 0, _ => []
  | _ + 1, [] => []
  | n + 1, b :: rest =>
      match head b rest with
      | .char c length => some c :: pieces n (rest.drop (length - 1))
      | .malformed length => none :: pieces n (rest.drop (length - 1))

/-- The text of well formed bytes. -/
def decode? (bytes : List UInt8) : Option String :=
  ((pieces bytes.length bytes).mapM id).map String.ofList

/-- The text of any bytes, with `U+FFFD` for every malformed part. -/
def decodeLossy (bytes : List UInt8) : String :=
  String.ofList ((pieces bytes.length bytes).map (·.getD '\ufffd'))

end ClientGen.Text.Utf8
