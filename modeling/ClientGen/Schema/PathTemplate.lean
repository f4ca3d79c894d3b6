import ClientGen.Api.Element
import ClientGen.Text.Lines

/-!
# Path templates

A path template is a request path with places for request fields:

    /v1/{name=projects/*/secrets/*}:addVersion

Segments stand after slashes.  A segment is literal text or a variable in braces; a variable may
have a pattern after `=`, which is not kept.  A verb may follow the last segment after a colon.
-/

namespace ClientGen.PathTemplate

/-- Puts a character before the first of some parts. -/
def extendFirst (c : Char) : List (List Char) → List (List Char)
  | [] => [[c]]
  | part :: parts => (c :: part) :: parts

/-- Splits at the slashes outside of braces.  Braces must be paired and not nested. -/
def splitParts : (inBraces : Bool) → List Char → Option (List (List Char))
  | inBraces, [] => if inBraces then none else some [[]]
  | inBraces, c :: rest =>
      if c = '\x7b' then
        if inBraces then none else (splitParts true rest).map (extendFirst c)
      else if c = '\x7d' then
        if inBraces then (splitParts false rest).map (extendFirst c) else none
      else if c = '/' ∧ inBraces = false then (splitParts false rest).map ([] :: ·)
      else (splitParts inBraces rest).map (extendFirst c)

/-- The parts of a text before and after the last occurrence of a character. -/
def splitAtLast (sep : Char) (cs : List Char) : Option (List Char × List Char) :=
  (Text.splitAtFirst sep cs.reverse).map fun (after, before) => (before.reverse, after.reverse)

/-- Takes the verb off the last part.  A colon inside braces does not count. -/
def splitVerb (part : List Char) : List Char × Option (List Char) :=
  match splitAtLast ':' part with
  | some (before, verb) => if '\x7d' ∈ verb then (part, none) else (before, some verb)
  | none => (part, none)

/-- Takes the verb off the last of some parts. -/
def splitLastVerb : List (List Char) → List (List Char) × Option (List Char)
  | [] => ([], none)
  | [last] => ([(splitVerb last).1], (splitVerb last).2)
  | part :: parts => (part :: (splitLastVerb parts).1, (splitLastVerb parts).2)

/-- What stands between the braces around a part. -/
def betweenBraces? (part : List Char) : Option (List Char) :=
  (Text.dropStart? ['\x7b'] part).bind (Text.dropEnd? ['\x7d'])

/-- Reads one part: a variable without its pattern, or literal text. -/
def readPart (part : List Char) : Option PathSegment :=
  match betweenBraces? part with
  | some inner =>
      let path := inner.takeWhile (· ≠ '=')
      if path = [] then none else some (.variable (String.ofList path))
  | none =>
      if part = [] ∨ '\x7b' ∈ part ∨ '\x7d' ∈ part then none
      else some (.literal (String.ofList part))

/-- The segment of a verb, which must not be empty. -/
def readVerb : Option (List Char) → Option (List PathSegment)
  | none => some []
  | some [] => none
  | some verb => some [.verb (String.ofList verb)]

/-- Reads a path template from its characters. -/
def read (cs : List Char) : Option (List PathSegment) :=
  match cs with
  | '/' :: rest =>
      match splitParts false rest with
      | none => none
      | some parts =>
          match (splitLastVerb parts).1.mapM readPart, readVerb (splitLastVerb parts).2 with
          | some segments, some verb => some (segments ++ verb)
          | _, _ => none
  | _ => none

/-- The segments of a path template, unless it is malformed. -/
def parse (template : String) : Option (List PathSegment) :=
  read template.toList

end ClientGen.PathTemplate
