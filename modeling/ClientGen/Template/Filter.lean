import ClientGen.Naming
import ClientGen.Table
import ClientGen.Template.Value
import ClientGen.Text.Blank
import ClientGen.Text.Decimal
import ClientGen.Text.Lines

/-!
# Filters

What a filter makes of a value.  Arguments have names.  A value or an argument of the wrong kind is
an error, and so is a filter that there is not.
-/

namespace ClientGen.Template

/-- Arguments by name. -/
abbrev Args := Table String Value

namespace Args

/-- A text, or what stands for it if it is not given. -/
def text (args : Args) (name : String) (missing : Option String) : Option String :=
  match args.get? name with
  | some (.string s) => some s
  | some _ => none
  | none => missing

/-- A truth value, false if it is not given. -/
def truth (args : Args) (name : String) : Option Bool :=
  match args.get? name with
  | some (.bool b) => some b
  | some _ => none
  | none => some false

/-- An integer, or what stands for it if it is not given. -/
def int (args : Args) (name : String) (missing : Option Int) : Option Int :=
  match args.get? name with
  | some (.int n) => some n
  | some _ => none
  | none => missing

/-- A natural number, or what stands for it if it is not given. -/
def nat (args : Args) (name : String) (missing : Option Nat) : Option Nat :=
  match args.get? name with
  | some (.int n) => if 0 ≤ n then some n.toNat else none
  | some _ => none
  | none => missing

/-- A number, if it is given. -/
def number (args : Args) (name : String) : Option (Option Float) :=
  match args.get? name with
  | some value => (Number.ofValue? value).map fun n => some n.toFloat
  | none => some none

end Args

namespace Filter

/-! ## Texts -/

/-- Drops a beginning as often as it is there. -/
def dropStarts (start : List Char) : Nat → List Char → List Char
  | 0, cs => cs
  | n + 1, cs =>
      match Text.dropStart? start cs with
      | some rest => dropStarts start n rest
      | none => cs

/-- Replaces a text wherever it occurs, from left to right.  The empty text occurs everywhere. -/
def replaceAll (old new : List Char) : Nat → List Char → List Char
  | 0, cs => cs
  | n + 1, cs =>
      if old.isEmpty then
        match cs with
        | [] => new
        | c :: rest => new ++ c :: replaceAll old new n rest
      else
        match cs with
        | [] => []
        | c :: rest =>
            match Text.dropStart? old cs with
            | some after => new ++ replaceAll old new n after
            | none => c :: replaceAll old new n rest

/-- A text with another text replaced. -/
def replace (old new text : String) : String :=
  String.ofList (replaceAll old.toList new.toList (text.toList.length + 1) text.toList)

/-- Splits at a text.  The first argument bounds the number of characters. -/
def splitAll (sep : List Char) : Nat → List Char → List (List Char)
  | 0, _ => [[]]
  | _ + 1, [] => [[]]
  | n + 1, c :: rest =>
      match Text.dropStart? sep (c :: rest) with
      | some after => if sep.isEmpty then joinFirst c n rest else [] :: splitAll sep n after
      | none => joinFirst c n rest
where
  /-- Puts a character before the first part of the rest. -/
  joinFirst (c : Char) (n : Nat) (rest : List Char) : List (List Char) :=
    match splitAll sep n rest with
    | first :: parts => (c :: first) :: parts
    | [] => [[c]]

/-- The parts of a text between the occurrences of another one. -/
def split (sep text : String) : List String :=
  if sep.isEmpty then "" :: (text.toList.map fun c => String.ofList [c]) ++ [""]
  else (splitAll sep.toList (text.toList.length + 1) text.toList).map String.ofList

/-- The parts of a text between white space. -/
def wordsOf (cs : List Char) : List (List Char) :=
  (cs.splitBy fun a b => Text.isBlank a == Text.isBlank b).filter fun run =>
    run.any fun c => !Text.isBlank c

/-- The first character in upper case, the others in lower case. -/
def capitalize (text : String) : String :=
  match text.toList with
  | [] => ""
  | c :: rest =>
      Naming.toUppercase (String.ofList [c]) ++ Naming.toLowercase (String.ofList rest)

/-- Can the character stand in a word of a title? -/
def isTitleChar (c : Char) : Bool :=
  Text.isAlphanumeric c || c = '_' || c = '\''

/-- Every word capitalized.  An apostrophe inside a word does not end it. -/
def title (text : String) : String :=
  let runs := text.toList.splitBy fun a b => isTitleChar a == isTitleChar b
  String.join (runs.map fun run =>
    let quotes := run.takeWhile (· = '\'')
    let rest := String.ofList (run.dropWhile (· = '\''))
    if run.any isTitleChar then String.ofList quotes ++ capitalize rest else String.ofList run)

/-- Replaces characters by texts. -/
def escapeWith (escape : Char → Option String) (text : String) : String :=
  String.join (text.toList.map fun c => (escape c).getD (String.ofList [c]))

/-- The escapes of markup. -/
def markupEscape : Char → Option String
  | '&' => some "&amp;"
  | '<' => some "&lt;"
  | '>' => some "&gt;"
  | '"' => some "&quot;"
  | '\'' => some "&#x27;"
  | '/' => some "&#x2F;"
  | _ => none

/-- The escapes of XML. -/
def xmlEscape : Char → Option String
  | '&' => some "&amp;"
  | '<' => some "&lt;"
  | '>' => some "&gt;"
  | '"' => some "&quot;"
  | '\'' => some "&apos;"
  | _ => none

/-- The escapes of quotes. -/
def slashEscape : Char → Option String
  | '\\' => some "\\\\"
  | '"' => some "\\\""
  | '\'' => some "\\'"
  | _ => none

/-- The percent escapes of the bytes of a character that cannot stand in a path. -/
def percentEscape (kept : List Char) (c : Char) : Option String :=
  if c.isAlphanum || c ∈ kept then none
  else
    some (String.join ((String.utf8EncodeChar c).map fun b =>
      let digits := (Nat.toDigits 16 b.toNat).map Char.toUpper
      "%" ++ String.ofList (List.replicate (2 - digits.length) '0' ++ digits)))

/-- Puts a text before the lines of another one, before the first and the blank ones only if
asked. -/
def indent (start : String) (first blank : Bool) (text : String) : String :=
  let lines := (Text.lines text.toList).map String.ofList
  let line (n : Nat) (line : String) : String :=
    if (n = 0 && !first) || (!blank && (Text.trimStart line.toList).isEmpty) then line
    else start ++ line
  "\n".intercalate (lines.zipIdx.map fun (l, n) => line n l)

/-- The digits of an integer with an optional sign. -/
def readInt? (base : Nat) (cs : List Char) : Option Int :=
  let (negative, digits) := match cs with
    | '-' :: rest => (true, rest)
    | '+' :: rest => (false, rest)
    | _ => (false, cs)
  let digit? (c : Char) : Option Nat :=
    let n := if c.isDigit then c.toNat - '0'.toNat
      else if c.isAlpha then c.toLower.toNat - 'a'.toNat + 10
      else base
    if n < base then some n else none
  if digits.isEmpty then none
  else
    match digits.mapM digit? with
    | none => none
    | some ds =>
        let magnitude := ds.foldl (fun n d => n * base + d) 0
        let n : Int := if negative then -magnitude else magnitude
        if Number.isSigned n then some n else none

/-- A decimal number with an optional sign, fraction and exponent. -/
def readFloat? (cs : List Char) : Option Float :=
  let (negative, cs) := match cs with
    | '-' :: rest => (true, rest)
    | '+' :: rest => (false, rest)
    | _ => (false, cs)
  let whole := cs.takeWhile Char.isDigit
  let rest := cs.dropWhile Char.isDigit
  let (fraction, rest) := match rest with
    | '.' :: rest => (rest.takeWhile Char.isDigit, rest.dropWhile Char.isDigit)
    | _ => ([], rest)
  let exponent? : Option Int := match rest with
    | [] => some 0
    | e :: rest => if e = 'e' || e = 'E' then readInt? 10 rest else none
  if whole.isEmpty && fraction.isEmpty then none
  else
    exponent?.map fun exponent =>
      let digits := (whole ++ fraction).foldl (fun n d => n * 10 + (d.toNat - '0'.toNat)) 0
      let power : Int := exponent - fraction.length
      let x := Text.doubleOf digits power
      if negative then -x else x

/-- The marks before the digits of a base. -/
def baseMark : Nat → List Char
  | 2 => ['0', 'b']
  | 8 => ['0', 'o']
  | 16 => ['0', 'x']
  | _ => []

/-- The integer that a value stands for. -/
def toInt (args : Args) (value : Value) : Option Value :=
  match args.int "default" (some 0), args.nat "base" (some 10) with
  | some missing, some base =>
      match value with
      | .string s =>
          let cs := Text.trim s.toList
          let mark := baseMark base
          let cs := if mark.isEmpty then cs else dropStarts mark cs.length cs
          match readInt? base cs with
          | some n => some (.int n)
          | none =>
              if cs.contains '.' then
                match readFloat? cs with
                | some x => some (.int (Number.clamp (Number.wholePart x)))
                | none => some (.int missing)
              else some (.int missing)
      | .int n => some (.int n)
      | .float x => some (.int (Number.clamp (Number.wholePart x)))
      | _ => none
  | _, _ => none

/-- The floating point number that a value stands for. -/
def toFloat (args : Args) (value : Value) : Option Value :=
  match args.number "default" with
  | none => none
  | some missing =>
      match value with
      | .string s =>
          some (.float ((readFloat? (Text.trim s.toList)).getD (missing.getD 0.0)))
      | .int n => some (.float (Float.ofInt n))
      | .float x => some (.float x)
      | _ => none

/-- A text whose parts in angle brackets have been left out. -/
def stripTags : Nat → List Char → List Char
  | 0, cs => cs
  | _ + 1, [] => []
  | n + 1, '<' :: rest =>
      match Text.splitAtFirst '>' rest with
      | some (_, after) => stripTags n after
      | none => '<' :: stripTags n rest
  | n + 1, c :: rest => c :: stripTags n rest

/-- Drops the white space that stands between an angle bracket that closes and one that opens. -/
def dropSpaceBetween : Nat → List Char → List Char
  | 0, cs => cs
  | _ + 1, [] => []
  | n + 1, '>' :: rest =>
      match Text.trimStart rest with
      | '<' :: after => '>' :: dropSpaceBetween n ('<' :: after)
      | _ => '>' :: dropSpaceBetween n rest
  | n + 1, c :: rest => c :: dropSpaceBetween n rest

/-- The letters and digits of a text in lower case, with a dash for whatever stands between them.
Only those of ASCII count. -/
def slug (cs : List Char) : List Char :=
  let runs := (cs.map Char.toLower).splitBy fun a b => a.isAlphanum == b.isAlphanum
  ['-'].intercalate (runs.filter fun run => run.any Char.isAlphanum)

/-- What a filter for texts makes of a text. -/
def ofText (name : String) (args : Args) (s : String) : Option Value :=
  let cs := s.toList
  let done (cs : List Char) : Option Value := some (.string (String.ofList cs))
  match name with
  | "upper" => some (.string (Naming.toUppercase s))
  | "lower" => some (.string (Naming.toLowercase s))
  | "trim" => done (Text.trim cs)
  | "trim_start" => done (Text.trimStart cs)
  | "trim_end" => done (Text.trimEnd cs)
  | "trim_start_matches" =>
      (args.text "pat" none).bind fun pat => done (dropStarts pat.toList cs.length cs)
  | "trim_end_matches" =>
      (args.text "pat" none).bind fun pat =>
        done (dropStarts pat.toList.reverse cs.length cs.reverse).reverse
  | "truncate" =>
      match args.nat "length" (some 255), args.text "end" (some "…") with
      | some length, some ending =>
          if cs.length ≤ length then some (.string s)
          else done (cs.take length ++ ending.toList)
      | _, _ => none
  | "wordcount" => some (.int (wordsOf cs).length)
  | "replace" =>
      match args.text "from" none, args.text "to" none with
      | some old, some new => some (.string (replace old new s))
      | _, _ => none
  | "capitalize" => some (.string (capitalize s))
  | "title" => some (.string (title s))
  | "linebreaksbr" => some (.string (replace "\n" "<br>" (replace "\r\n" "<br>" s)))
  | "indent" =>
      match args.text "prefix" (some "    "), args.truth "first", args.truth "blank" with
      | some start, some first, some blank => some (.string (indent start first blank s))
      | _, _, _ => none
  | "striptags" => done (stripTags cs.length cs)
  | "spaceless" => done (dropSpaceBetween cs.length cs)
  | "slugify" => done (slug cs)
  | "escape" => some (.string (escapeWith markupEscape s))
  | "escape_xml" => some (.string (escapeWith xmlEscape s))
  | "addslashes" => some (.string (escapeWith slashEscape s))
  | "urlencode" => some (.string (escapeWith (percentEscape ['-', '_', '.', '~', '/']) s))
  | "urlencode_strict" => some (.string (escapeWith (percentEscape []) s))
  | "split" =>
      (args.text "pat" none).map fun pat => .array ((split pat s).map .string)
  | _ => none

/-! ## Arrays -/

/-- The names of an attribute, which leads into the items of an array. -/
def memberNames (member : String) : List String :=
  if member.isEmpty then [] else (member.toList.splitOn '.').map String.ofList

/-- The items with their values at an attribute, which all items must have. -/
def keyed (member : String) (items : List Value) : Option (List (Value × Value)) :=
  items.mapM fun item => (item.at? (memberNames member)).map fun key => (key, item)

/-- May a value stand before another one?  Values of different kinds cannot be compared, nor can
objects and nothing. -/
def inOrder? : Value → Value → Option Bool
  | .bool a, .bool b => some (!a || b)
  | .string a, .string b => some (a ≤ b)
  | .array a, .array b => some (a.length ≤ b.length)
  | a, b =>
      match Number.ofValue? a, Number.ofValue? b with
      | some a, some b => some (a.toFloat ≤ b.toFloat)
      | _, _ => none

/-- The items in ascending order. -/
def sort (member : String) (items : List Value) : Option (List Value) :=
  match keyed member items with
  | none => none
  | some [] => some []
  | some ((first, item) :: rest) =>
      if ((first, item) :: rest).all fun (key, _) => (inOrder? first key).isSome then
        some ((((first, item) :: rest).mergeSort fun a b =>
          (inOrder? a.1 b.1).getD true).map (·.2))
      else none

/-- Are two values the same to `unique`? -/
def sameKey (caseSensitive : Bool) : Value → Value → Bool
  | .string a, .string b =>
      if caseSensitive then a = b else Naming.toLowercase a = Naming.toLowercase b
  | a, b => a == b

/-- Drops the entries whose key has been seen before. -/
def dropSeen (caseSensitive : Bool) (seen : List Value) : List (Value × Value) → List Value
  | [] => []
  | (key, item) :: rest =>
      if seen.any (sameKey caseSensitive key) then dropSeen caseSensitive seen rest
      else item :: dropSeen caseSensitive (key :: seen) rest

/-- The items whose keys have not been seen before.  Items without the attribute are left out; the
keys must be of one kind that can be compared. -/
def unique (member : String) (caseSensitive : Bool) (items : List Value) : Option (List Value) :=
  match items with
  | [] => some []
  | first :: _ =>
      match first.at? (memberNames member) with
      | none => none
      | some key =>
          let entries := items.filterMap fun item =>
            (item.at? (memberNames member)).map fun key => (key, item)
          if entries.all fun (other, _) => (inOrder? key other).isSome then
            some (dropSeen caseSensitive [] entries)
          else none

/-- The place of an item that may be counted from the end. -/
def placeOf (length : Nat) (x : Float) : Nat :=
  let n := Number.wholePart (if x ≥ 0.0 then x else Float.ofNat length + x)
  n.toNat

/-- The items from one place to another. -/
def slice (args : Args) (items : List Value) : Option Value :=
  match args.number "start", args.number "end" with
  | some start, some stop =>
      let start := (start.map (placeOf items.length)).getD 0
      let stop := min ((stop.map (placeOf items.length)).getD items.length) items.length
      some (.array ((items.take stop).drop start))
  | _, _ => none

/-- The name of a group. -/
def groupName : Value → String
  | .string s => s
  | value => value.json none

/-- Adds an item to its group. -/
def addToGroup (groups : Table String (List Value)) (entry : String × Value) :
    Table String (List Value) :=
  groups.insert entry.1 ((groups.get? entry.1).getD [] ++ [entry.2])

/-- The items in groups of one attribute; those without it are left out. -/
def groupBy (member : String) (items : List Value) : Value :=
  let entries := items.filterMap fun item =>
    match item.at? (memberNames member) with
    | none | some .null => none
    | some key => some (groupName key, item)
  .object ((entries.foldl addToGroup ∅).mapValues .array).entries

/-- What a filter for arrays makes of the items. -/
def ofItems (name : String) (args : Args) (items : List Value) : Option Value :=
  match name with
  | "first" => some (items.head?.getD (.string ""))
  | "last" => some (items.getLast?.getD (.string ""))
  | "nth" => (args.nat "n" none).map fun n => items[n]?.getD (.string "")
  | "join" =>
      (args.text "sep" (some "")).map fun sep =>
        let sep := replace "\\t" "\t" (replace "\\n" "\n" sep)
        .string (sep.intercalate (items.map Value.text))
  | "sort" =>
      (args.text "attribute" (some "")).bind fun member =>
        (sort member items).map .array
  | "unique" =>
      match args.text "attribute" (some ""), args.truth "case_sensitive" with
      | some member, some caseSensitive =>
          (unique member caseSensitive items).map .array
      | _, _ => none
  | "slice" => slice args items
  | "group_by" =>
      if items.isEmpty then some (.object [])
      else (args.text "attribute" none).map fun member => groupBy member items
  | "filter" =>
      if items.isEmpty then some (.array [])
      else
        (args.text "attribute" none).map fun member =>
          let wanted := (args.get? "value").getD .null
          .array (items.filter fun item =>
            let found := (item.at? (memberNames member)).getD .null
            if wanted == .null then found != .null else found == wanted)
  | "map" =>
      if items.isEmpty then some (.array [])
      else
        (args.text "attribute" none).map fun member =>
          .array (items.filterMap fun item =>
            match item.at? (memberNames member) with
            | some .null => none
            | found => found)
  | "concat" =>
      match args.get? "with" with
      | some (.array more) => some (.array (items ++ more))
      | some item => some (.array (items ++ [item]))
      | none => none
  | _ => none

/-! ## Numbers -/

/-- A number rounded to some decimal places. -/
def round (args : Args) (x : Float) : Option Value :=
  match args.text "method" (some "common"), args.int "precision" (some 0) with
  | some method, some precision =>
      let power := Text.doubleOf 1 precision.natAbs
      let unit := if precision < 0 then 1.0 / power else power
      let scaled := unit * x
      let place (y : Float) : Option Value := some (.float (y / unit))
      if method = "common" then place scaled.round
      else if method = "ceil" then place scaled.ceil
      else if method = "floor" then place scaled.floor
      else none
  | _, _ => none

/-- A quotient rounded to a natural number, a half to the even one. -/
def roundedQuotient (n d : Nat) : Nat :=
  let q := n / d
  let twice := 2 * (n % d)
  if twice < d || (twice = d && q % 2 = 0) then q else q + 1

/-- The units of sizes, each 1024 times the one before. -/
def sizeUnits : Bool → List String
  | false => ["B", "kB", "MB", "GB", "TB", "PB", "EB"]
  | true => ["B", "KiB", "MiB", "GiB", "TiB", "PiB", "EiB"]

/-- A number of bytes in the largest unit that it fills, with two places if it is not whole. -/
def fileSize (binary : Bool) (bytes : Nat) : String :=
  let step := bytes.log2 / 10
  let unit := Nat.pow 1024 step
  let number :=
    if bytes % unit = 0 then toString (bytes / unit)
    else
      let hundredths := roundedQuotient (bytes * 100) unit
      let places := Nat.toDigits 10 (hundredths % 100)
      toString (hundredths / 100) ++ "." ++
        String.ofList (List.replicate (2 - places.length) '0' ++ places)
  number ++ " " ++ ((sizeUnits binary)[step]?.getD "")

/-- What a filter for numbers makes of a number. -/
def ofNumber (name : String) (args : Args) (n : Number) : Option Value :=
  match name with
  | "abs" =>
      match n with
      | .int m => some (.int m.natAbs)
      | .float x => some (.float x.abs)
  | "round" => round args n.toFloat
  | "filesizeformat" =>
      match n, args.truth "binary" with
      | .int m, some binary => if 0 ≤ m then some (.string (fileSize binary m.toNat)) else none
      | _, _ => none
  | "pluralize" =>
      match args.text "singular" (some ""), args.text "plural" (some "s") with
      | some singular, some plural =>
          let one := (n.toFloat.abs - 1.0).abs ≤ 2.220446049250313e-16
          some (.string (if one then singular else plural))
      | _, _ => none
  | _ => none

/-! ## All filters -/

/-- What a filter makes of a value of any kind. -/
def ofAny (name : String) (args : Args) (value : Value) : Option Value :=
  match name with
  | "length" =>
      match value with
      | .array items => some (.int items.length)
      | .object members => some (.int members.length)
      | .string s => some (.int s.toList.length)
      | _ => none
  | "reverse" =>
      match value with
      | .array items => some (.array items.reverse)
      | .string s => some (.string (String.ofList s.toList.reverse))
      | _ => none
  | "json_encode" =>
      (args.truth "pretty").map fun pretty =>
        .string (value.json (if pretty then some 0 else none))
  | "as_str" => some (.string value.text)
  | "get" =>
      match args.text "key" none, value with
      | some key, .object members => (members.lookup key).or (args.get? "default")
      | _, _ => none
  | "int" => toInt args value
  | "float" => toFloat args value
  | _ => none

/-- What a filter makes of a value. -/
def apply (name : String) (args : Args) (value : Value) : Option Value :=
  let special := match value with
    | .string s => ofText name args s
    | .array items => ofItems name args items
    | value => (Number.ofValue? value).bind (ofNumber name args)
  special.or (ofAny name args value)

end Filter

end ClientGen.Template
