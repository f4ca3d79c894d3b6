import ClientGen.Text.Utf8
import ClientGen.Wire.Token

/-!
# Reading messages

A message is read by folding its tokens over a value that starts out empty.  What a field does to
the value is given by a `step`; fields that the step does not know are skipped, with the groups they
open, however deep these are nested up to the limit.

The limit counts how many messages and groups may still lie inside the current one.  It bounds the
depth of malicious input, and it is what the recursion on nested messages descends on.
-/

namespace ClientGen.Wire

/-- What one field does to the value read so far. -/
inductive Step (α : Type) where
  /-- The field is not one of the message. -/
  | unknown
  /-- The field is one of the message, but not of this shape. -/
  | malformed
  | ok (value : α)

/-- A step of a known field: malformed if there is no result. -/
def Step.known {α : Type} : Option α → Step α
  | some value => .ok value
  | none => .malformed

/-- Folds tokens over a value.  The list holds the numbers of the unknown groups that are open, the
innermost first. -/
def fold {α : Type} (limit : Nat) (step : α → Nat → Token → Step α) :
    List Nat → α → List (Nat × Token) → Option α
  | [], value, [] => some value
  | _ :: _, _, [] => none
  | [], value, (number, token) :: rest =>
      match step value number token with
      | .ok value => fold limit step [] value rest
      | .malformed => none
      | .unknown =>
          if limit = 0 then none
          else
            match token with
            | .openGroup => fold limit step [number] value rest
            | .closeGroup => none
            | _ => fold limit step [] value rest
  | group :: groups, value, (number, token) :: rest =>
      match token with
      | .closeGroup => if number = group then fold limit step groups value rest else none
      | .openGroup =>
          if limit ≤ (group :: groups).length then none
          else fold limit step (number :: group :: groups) value rest
      | _ =>
          if limit ≤ (group :: groups).length then none
          else fold limit step (group :: groups) value rest

/-- Reads the fields in some bytes into a value. -/
def mergeFields {α : Type} (limit : Nat) (step : α → Nat → Token → Step α) (value : α)
    (bytes : List UInt8) : Option α :=
  match tokens bytes with
  | some tokens => fold limit step [] value tokens
  | none => none

/-! ## The shapes of fields -/

/-- A text. -/
def readText : Token → Option String
  | .block payload => Text.Utf8.decode? payload
  | _ => none

/-- The low 32 bits of an integer, as a signed number. -/
def toInt32 (n : UInt64) : Int32 :=
  n.toUInt32.toInt32

/-- A signed 32 bit integer. -/
def readInt32 : Token → Option Int32
  | .varint n => some (toInt32 n)
  | _ => none

/-- A truth value: any integer but zero is true. -/
def readBool : Token → Option Bool
  | .varint n => some (n != 0)
  | _ => none

/-- Reads at most `count` integers, up to the end of the bytes. -/
def readInt32s : (count : Nat) → List UInt8 → Option (List Int32)
  | _, [] => some []
  | 0, _ :: _ => none
  | count + 1, bytes =>
      match readVarint bytes with
      | some (n, rest) => (readInt32s count rest).map (toInt32 n :: ·)
      | none => none

/-- Some of a list of integers: one on its own, or many packed into a block. -/
def readRepeatedInt32 : Token → Option (List Int32)
  | .varint n => some [toInt32 n]
  | .block payload => readInt32s payload.length payload
  | _ => none

/-- A message inside the current one, read into what is already known of it. -/
def readNested {α : Type} (merge : α → List UInt8 → Option α) (value : α) : Token → Option α
  | .block payload => merge value payload
  | _ => none

/-- Reading a message one level down, if the limit allows it. -/
def deeper {α : Type} (limit : Nat) (merge : Nat → α → List UInt8 → Option α) (value : α)
    (bytes : List UInt8) : Option α :=
  match limit with
  | 0 => none
  | limit + 1 => merge limit value bytes

end ClientGen.Wire
