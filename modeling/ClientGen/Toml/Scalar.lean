import ClientGen.Text.Decimal
import ClientGen.Text.Lines
import ClientGen.Toml.Quoting
import ClientGen.Toml.Value

/-!
# Reading scalars of TOML

Readers take characters from the start of a text and give what is left.  Strings come in the four
forms in which they are written.  All other scalars are words: what a word means is decided when its
end is found.
-/

namespace ClientGen.Toml

/-- Takes something from the start of a text. -/
abbrev Reader (α : Type) := List Char → Option (α × List Char)

/-- Is the character a space or a tab? -/
def isGap (c : Char) : Bool :=
  c = ' ' || c = '\t'

/-- Drops spaces and tabs. -/
def skipGap (cs : List Char) : List Char :=
  cs.dropWhile isGap

/-- Is the character no part of a text, unless it breaks a line? -/
def isForbidden (c : Char) : Bool :=
  isControlCode c || c = '\n'

/-- What a reader has read with a character before it. -/
def prepend? (c : Char) (read : Option (List Char × List Char)) :
    Option (List Char × List Char) :=
  read.map fun (text, rest) => (c :: text, rest)

/-! ## Escapes -/

/-- The value of a hexadecimal digit. -/
def hexDigit? (c : Char) : Option Nat :=
  if c.isDigit then some (c.toNat - '0'.toNat)
  else if 'a' ≤ c ∧ c ≤ 'f' then some (c.toNat - 'a'.toNat + 10)
  else if 'A' ≤ c ∧ c ≤ 'F' then some (c.toNat - 'A'.toNat + 10)
  else none

/-- The number of some hexadecimal digits. -/
def hexNumber? (digits : List Char) : Option Nat :=
  digits.foldlM (fun n c => (hexDigit? c).map (n * 16 + ·)) 0

/-- The character whose code is written with some hexadecimal digits. -/
def charOfCode? (digits : List Char) : Option Char :=
  (hexNumber? digits).bind fun n => if n.isValidChar then some (Char.ofNat n) else none

/-- The character of an escape that is a single letter. -/
def escaped? : Char → Option Char
  | 'b' => some '\x08'
  | 't' => some '\t'
  | 'n' => some '\n'
  | 'f' => some '\x0c'
  | 'r' => some '\r'
  | 'e' => some '\x1b'
  | '"' => some '"'
  | '\\' => some '\\'
  | _ => none

/-! ## Strings -/

/-- Reads a string up to the double quote that closes it. -/
def basicRest : Reader (List Char)
  | [] => none
  | '"' :: rest => some ([], rest)
  | '\\' :: 'x' :: a :: b :: rest => do prepend? (← charOfCode? [a, b]) (basicRest rest)
  | '\\' :: 'u' :: a :: b :: c :: d :: rest => do
      prepend? (← charOfCode? [a, b, c, d]) (basicRest rest)
  | '\\' :: 'U' :: a :: b :: c :: d :: e :: f :: g :: h :: rest => do
      prepend? (← charOfCode? [a, b, c, d, e, f, g, h]) (basicRest rest)
  | '\\' :: c :: rest => do prepend? (← escaped? c) (basicRest rest)
  | c :: rest => if isForbidden c || c = '\\' then none else prepend? c (basicRest rest)

/-- Does nothing but white space stand before the end of the line? -/
def endsLine (cs : List Char) : Bool :=
  match skipGap cs with
  | '\n' :: _ => true
  | '\r' :: '\n' :: _ => true
  | _ => false

/-- Reads a string up to the three double quotes that close it; two more can stand before them.
After a backslash at the end of a line all white space is passed over: the first argument says if
that is going on. -/
def longBasicRest : Bool → Reader (List Char)
  | _, [] => none
  | true, ' ' :: rest => longBasicRest true rest
  | true, '\t' :: rest => longBasicRest true rest
  | true, '\n' :: rest => longBasicRest true rest
  | true, '\r' :: '\n' :: rest => longBasicRest true rest
  | _, '"' :: '"' :: '"' :: '"' :: '"' :: rest => some (['"', '"'], rest)
  | _, '"' :: '"' :: '"' :: '"' :: rest => some (['"'], rest)
  | _, '"' :: '"' :: '"' :: rest => some ([], rest)
  | _, '\\' :: 'x' :: a :: b :: rest => do
      prepend? (← charOfCode? [a, b]) (longBasicRest false rest)
  | _, '\\' :: 'u' :: a :: b :: c :: d :: rest => do
      prepend? (← charOfCode? [a, b, c, d]) (longBasicRest false rest)
  | _, '\\' :: 'U' :: a :: b :: c :: d :: e :: f :: g :: h :: rest => do
      prepend? (← charOfCode? [a, b, c, d, e, f, g, h]) (longBasicRest false rest)
  | _, '\\' :: c :: rest =>
      if endsLine (c :: rest) then longBasicRest true (c :: rest)
      else do prepend? (← escaped? c) (longBasicRest false rest)
  | _, '\r' :: '\n' :: rest => prepend? '\r' (prepend? '\n' (longBasicRest false rest))
  | _, c :: rest =>
      if isControlCode c || c = '\\' then none else prepend? c (longBasicRest false rest)

/-- Reads a string up to the apostrophe that closes it. -/
def literalRest : Reader (List Char)
  | [] => none
  | '\'' :: rest => some ([], rest)
  | c :: rest => if isForbidden c then none else prepend? c (literalRest rest)

/-- Reads a string up to the three apostrophes that close it; two more can stand before them. -/
def longLiteralRest : Reader (List Char)
  | [] => none
  | '\'' :: '\'' :: '\'' :: '\'' :: '\'' :: rest => some (['\'', '\''], rest)
  | '\'' :: '\'' :: '\'' :: '\'' :: rest => some (['\''], rest)
  | '\'' :: '\'' :: '\'' :: rest => some ([], rest)
  | '\r' :: '\n' :: rest => prepend? '\r' (prepend? '\n' (longLiteralRest rest))
  | c :: rest => if isControlCode c then none else prepend? c (longLiteralRest rest)

/-- Drops the line break that opens a string which goes over several lines. -/
def dropOpening : List Char → List Char
  | '\n' :: rest => rest
  | '\r' :: '\n' :: rest => rest
  | cs => cs

/-- Reads a string in any form. -/
def stringScalar : Reader String := fun cs =>
  let read : Option (List Char × List Char) :=
    match cs with
    | '"' :: '"' :: '"' :: rest => longBasicRest false (dropOpening rest)
    | '"' :: rest => basicRest rest
    | '\'' :: '\'' :: '\'' :: rest => longLiteralRest (dropOpening rest)
    | '\'' :: rest => literalRest rest
    | _ => none
  read.map fun (text, rest) => (String.ofList text, rest)

/-! ## Keys -/

/-- Reads a key without dots. -/
def simpleKey : Reader String
  | '"' :: rest => (basicRest rest).map fun (text, rest) => (String.ofList text, rest)
  | '\'' :: rest => (literalRest rest).map fun (text, rest) => (String.ofList text, rest)
  | c :: rest =>
      if isBareChar c then
        some (String.ofList (c :: rest.takeWhile isBareChar), rest.dropWhile isBareChar)
      else none
  | [] => none

/-- Reads a key whose parts are separated by dots.  The first argument bounds the number of
parts. -/
def dottedKeyWithin : Nat → Reader (List String)
  | 0, _ => none
  | n + 1, cs =>
      match simpleKey (skipGap cs) with
      | none => none
      | some (part, rest) =>
          match skipGap rest with
          | '.' :: rest => (dottedKeyWithin n rest).map fun (parts, rest) => (part :: parts, rest)
          | rest => some ([part], rest)

/-- Reads a key, with the space around it. -/
def dottedKey : Reader (List String) := fun cs =>
  dottedKeyWithin (cs.length + 1) cs

/-! ## Numbers -/

/-- The digits of a number whose digits can be separated by underscores, one at a time; there is
a digit at both ends. -/
def separatedDigits? (isDigit : Char → Bool) : List Char → Option (List Char)
  | [] => none
  | [c] => if isDigit c then some [c] else none
  | c :: '_' :: rest => if isDigit c then (separatedDigits? isDigit rest).map (c :: ·) else none
  | c :: rest => if isDigit c then (separatedDigits? isDigit rest).map (c :: ·) else none

/-- The number of some digits in a base. -/
def numberOf? (base : Nat) (cs : List Char) : Option Nat :=
  let isDigit (c : Char) : Bool := (hexDigit? c).any (· < base)
  (separatedDigits? isDigit cs).bind fun digits =>
    digits.foldlM (fun n c => (hexDigit? c).map (n * base + ·)) 0

/-- A sign, if there is one: is it a minus, and what follows. -/
def splitSign : List Char → Bool × List Char
  | '-' :: rest => (true, rest)
  | '+' :: rest => (false, rest)
  | cs => (false, cs)

/-- The decimal digits of a number without a leading zero. -/
def wholeDigits? (cs : List Char) : Option (List Char) :=
  match separatedDigits? Char.isDigit cs with
  | some ('0' :: _ :: _) => none
  | digits => digits

/-- The value of decimal digits. -/
def decimalValue (digits : List Char) : Nat :=
  digits.foldl (fun n d => n * 10 + (d.toNat - '0'.toNat)) 0

/-- The integer of a word. -/
def integer? (word : List Char) : Option Int :=
  let n : Option Int :=
    match word with
    | '0' :: 'x' :: digits => (numberOf? 16 digits).map Int.ofNat
    | '0' :: 'o' :: digits => (numberOf? 8 digits).map Int.ofNat
    | '0' :: 'b' :: digits => (numberOf? 2 digits).map Int.ofNat
    | _ =>
        let (negative, digits) := splitSign word
        (wholeDigits? digits).map fun digits =>
          let n : Int := decimalValue digits
          if negative then -n else n
  n.filter fun n => -(Int.pow 2 127) ≤ n ∧ n < Int.pow 2 128

/-- The exponent after its letter. -/
def exponent? (cs : List Char) : Option Int :=
  let (negative, digits) := splitSign cs
  (separatedDigits? Char.isDigit digits).map fun digits =>
    let n : Int := decimalValue digits
    if negative then -n else n

/-- The finite number with some digits and a power of ten. -/
def scaled? (digits : List Char) (power : Int) : Option Float :=
  let x := Text.doubleOf (decimalValue digits) power
  if x.isInf then none else some x

/-- The number of a word that has a fraction, an exponent or both. -/
def finite? (cs : List Char) : Option Float :=
  let isExponent (c : Char) : Bool := c = 'e' || c = 'E'
  let mantissa := cs.takeWhile fun c => !isExponent c
  let power? : Option Int :=
    match cs.dropWhile fun c => !isExponent c with
    | [] => if mantissa.contains '.' then some 0 else none
    | _ :: rest => exponent? rest
  match Text.splitAtFirst '.' mantissa with
  | none => do scaled? (← wholeDigits? mantissa) (← power?)
  | some (whole, fraction) => do
      let fraction ← separatedDigits? Char.isDigit fraction
      scaled? ((← wholeDigits? whole) ++ fraction) ((← power?) - fraction.length)

/-- The floating point number of a word. -/
def float? (word : List Char) : Option Float :=
  let (negative, cs) := splitSign word
  let x : Option Float :=
    if cs = ['i', 'n', 'f'] then some (1.0 / 0.0)
    else if cs = ['n', 'a', 'n'] then some (0.0 / 0.0)
    else finite? cs
  x.map fun x => if negative then -x else x

/-! ## Dates and times -/

/-- The number of exactly two digits. -/
def twoDigits? : List Char → Option Nat
  | [a, b] => if a.isDigit && b.isDigit then some (decimalValue [a, b]) else none
  | _ => none

/-- The number of days of a month. -/
def daysOf (year month : Nat) : Nat :=
  if month = 2 then
    if year % 4 = 0 && (year % 100 ≠ 0 || year % 400 = 0) then 29 else 28
  else if month = 4 || month = 6 || month = 9 || month = 11 then 30
  else 31

/-- Is the text a date? -/
def isDate : List Char → Bool
  | [a, b, c, d, '-', e, f, '-', g, h] =>
      match twoDigits? [a, b], twoDigits? [c, d], twoDigits? [e, f], twoDigits? [g, h] with
      | some century, some year, some month, some day =>
          1 ≤ month && month ≤ 12 && 1 ≤ day && day ≤ daysOf (century * 100 + year) month
      | _, _, _, _ => false
  | _ => false

/-- The usual text of a fraction of a second: at most nine digits, without zeros at its end. -/
def usualFraction (digits : List Char) : List Char :=
  match ((digits.take 9).reverse.dropWhile (· = '0')).reverse with
  | [] => ['0']
  | digits => digits

/-- The usual text of a time of day.  The seconds can be left out. -/
def usualTime? (cs : List Char) : Option (List Char) :=
  let isBelow (limit : Nat) (a b : Char) : Bool := (twoDigits? [a, b]).any (· < limit)
  match cs with
  | [a, b, ':', c, d] => if isBelow 24 a b && isBelow 60 c d then some cs else none
  | [a, b, ':', c, d, ':', e, f] =>
      if isBelow 24 a b && isBelow 60 c d && isBelow 61 e f then some cs else none
  | a :: b :: ':' :: c :: d :: ':' :: e :: f :: '.' :: fraction =>
      if isBelow 24 a b && isBelow 60 c d && isBelow 61 e f && fraction ≠ [] &&
          fraction.all Char.isDigit then
        some ([a, b, ':', c, d, ':', e, f, '.'] ++ usualFraction fraction)
      else none
  | _ => none

/-- The usual text of a distance from universal time. -/
def usualOffset? : List Char → Option (List Char)
  | ['Z'] => some ['Z']
  | ['z'] => some ['Z']
  | [s, a, b, ':', c, d] =>
      if (s = '+' || s = '-') && (twoDigits? [a, b]).any (· < 24) &&
          (twoDigits? [c, d]).any (· < 60) then
        if [a, b, c, d].all (· = '0') then some ['+', '0', '0', ':', '0', '0']
        else some [s, a, b, ':', c, d]
      else none
  | _ => none

/-- The usual text of a time of day that can have a distance from universal time. -/
def usualMoment? (cs : List Char) : Option (List Char) :=
  let isOffset (c : Char) : Bool := c = 'Z' || c = 'z' || c = '+' || c = '-'
  let time := cs.takeWhile fun c => !isOffset c
  match cs.dropWhile fun c => !isOffset c with
  | [] => usualTime? time
  | offset => do return (← usualTime? time) ++ (← usualOffset? offset)

/-- The usual text of a date, a time or both. -/
def datetime? (word : List Char) : Option String :=
  let date := word.take 10
  if isDate date then
    match word.drop 10 with
    | [] => some (String.ofList date)
    | s :: rest =>
        if s = 'T' || s = 't' || s = ' ' then
          (usualMoment? rest).map fun time => String.ofList (date ++ 'T' :: time)
        else none
  else (usualTime? word).map String.ofList

/-! ## Words -/

/-- Can the character stand in a word? -/
def isWordChar (c : Char) : Bool :=
  isBareChar c || c = '+' || c = '.' || c = ':'

/-- Takes a word.  A date and a time with a space between them are one word. -/
def word (cs : List Char) : List Char × List Char :=
  let first := cs.takeWhile isWordChar
  match isDate first, cs.dropWhile isWordChar with
  | true, ' ' :: d :: rest =>
      if d.isDigit then
        (first ++ ' ' :: (d :: rest).takeWhile isWordChar, (d :: rest).dropWhile isWordChar)
      else (first, ' ' :: d :: rest)
  | _, rest => (first, rest)

/-- What a word means. -/
def wordValue? (word : List Char) : Option Value :=
  if word = ['t', 'r', 'u', 'e'] then some (.boolean true)
  else if word = ['f', 'a', 'l', 's', 'e'] then some (.boolean false)
  else
    ((integer? word).map .integer).or
      (((float? word).map .float).or ((datetime? word).map .datetime))

/-- Reads a value that holds no others. -/
def scalar : Reader Value := fun cs =>
  match cs with
  | '"' :: _ | '\'' :: _ => (stringScalar cs).map fun (s, rest) => (.string s, rest)
  | _ => (wordValue? (word cs).1).map fun v => (v, (word cs).2)

end ClientGen.Toml
