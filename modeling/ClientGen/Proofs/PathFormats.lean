import ClientGen.Codec.Go
import ClientGen.Proofs.PathTemplates

/-!
# Formats of request paths

A Go client prints the path of a request with a format and one argument for each place in it.  The
format and the arguments are made from the segments of a path template, each without the other.
This file reads them together, in the way of `fmt.Sprintf`.

* `Sprintf.print?` — what a format prints with some arguments.
* `Sprintf.print?_eq_some_iff` — there is one format for what is to be printed: places are `%s`, and
  percent signs are doubled.
* `PathSegment.printed` — what is to be printed for a segment.
* `GoCodec.print?_pathFormat_iff` — the format of a request path does not double percent signs, so
  it prints the path exactly when no literal and no verb has one.
-/

namespace ClientGen

/-! ## Formats -/

namespace Sprintf

/-- One piece of what a format prints. -/
inductive Piece (α : Type) where
  /-- A character that stands in the format. -/
  | character (c : Char)
  /-- An argument, in a place for it. -/
  | argument (a : α)
deriving DecidableEq, Repr

/-- What a format prints with some arguments.  A percent sign starts a directive: `%s` takes the
next argument, `%%` prints a percent sign, and no other directive is known.  No argument may be
missing, and none may be left over. -/
def print? {α : Type} : (format : List Char) → (arguments : List α) → Option (List (Piece α))
  | [], [] => some []
  | [], _ :: _ => none
  | '%' :: '%' :: rest, args => (print? rest args).map (.character '%' :: ·)
  | '%' :: 's' :: rest, a :: args => (print? rest args).map (.argument a :: ·)
  | '%' :: _, _ => none
  | c :: rest, args => (print? rest args).map (.character c :: ·)

namespace Piece

variable {α : Type}

/-- The format of a piece. -/
def format : Piece α → List Char
  | .character c => if c = '%' then ['%', '%'] else [c]
  | .argument _ => ['%', 's']

/-- The argument of a piece, if it is one. -/
def argument? : Piece α → Option α
  | .character _ => none
  | .argument a => some a

/-- The format of a piece when percent signs are not doubled. -/
def unescaped : Piece α → List Char
  | .character c => [c]
  | .argument _ => ['%', 's']

theorem format_of_ne {p : Piece α} (h : p ≠ .character '%') : p.format = p.unescaped := by
  cases p with
  | argument a => rfl
  | character c =>
      have hc : c ≠ '%' := by
        rintro rfl
        exact h rfl
      rw [format, if_neg hc, unescaped]

theorem length_unescaped_le (p : Piece α) : p.unescaped.length ≤ p.format.length := by
  by_cases h : p = .character '%'
  · subst h
    simp [unescaped, format]
  · rw [format_of_ne h]

end Piece

variable {α : Type}

theorem print?_cons {c : Char} (h : c ≠ '%') (rest : List Char) (args : List α) :
    print? (c :: rest) args = (print? rest args).map (.character c :: ·) := by
  conv_lhs => unfold print?
  split <;> simp_all

/-- What is to be printed is printed by the format of its pieces. -/
theorem print?_format (pieces : List (Piece α)) :
    print? (pieces.flatMap Piece.format) (pieces.filterMap Piece.argument?) = some pieces := by
  induction pieces with
  | nil => rfl
  | cons p pieces ih =>
      cases p with
      | argument a =>
          have hargs : (Piece.argument a :: pieces).filterMap Piece.argument?
              = a :: pieces.filterMap Piece.argument? := List.filterMap_cons_some rfl
          rw [List.flatMap_cons, hargs]
          simp [Piece.format, print?, ih]
      | character c =>
          rw [List.flatMap_cons, List.filterMap_cons_none rfl]
          by_cases hc : c = '%'
          · subst hc
            simp [Piece.format, print?, ih]
          · have hformat : (Piece.character c : Piece α).format = [c] := if_neg hc
            rw [hformat, List.singleton_append, print?_cons hc, ih, Option.map_some]

/-- A format that prints something is the format of what it prints. -/
theorem format_of_print? {cs : List Char} {args : List α} {pieces : List (Piece α)}
    (h : print? cs args = some pieces) :
    cs = pieces.flatMap Piece.format ∧ args = pieces.filterMap Piece.argument? := by
  fun_induction print? cs args generalizing pieces with
  | case1 =>
      cases h
      exact ⟨rfl, rfl⟩
  | case2 => cases h
  | case3 rest args ih =>
      obtain ⟨tail, htail, rfl⟩ := Option.map_eq_some_iff.1 h
      obtain ⟨rfl, rfl⟩ := ih htail
      exact ⟨rfl, rfl⟩
  | case4 rest a args ih =>
      obtain ⟨tail, htail, rfl⟩ := Option.map_eq_some_iff.1 h
      obtain ⟨rfl, rfl⟩ := ih htail
      exact ⟨rfl, rfl⟩
  | case5 => cases h
  | case6 c rest args _ _ hc ih =>
      obtain ⟨tail, htail, rfl⟩ := Option.map_eq_some_iff.1 h
      obtain ⟨rfl, rfl⟩ := ih htail
      have hformat : (Piece.character c : Piece α).format = [c] := if_neg hc
      rw [List.flatMap_cons, hformat]
      exact ⟨rfl, rfl⟩

/-- **There is one format for what is to be printed**, and one list of arguments. -/
theorem print?_eq_some_iff {cs : List Char} {args : List α} {pieces : List (Piece α)} :
    print? cs args = some pieces ↔
      cs = pieces.flatMap Piece.format ∧ args = pieces.filterMap Piece.argument? := by
  constructor
  · exact format_of_print?
  · rintro ⟨rfl, rfl⟩
    exact print?_format pieces

theorem length_flatMap_unescaped_le (pieces : List (Piece α)) :
    (pieces.flatMap Piece.unescaped).length ≤ (pieces.flatMap Piece.format).length := by
  induction pieces with
  | nil => exact Nat.le_refl _
  | cons p pieces ih =>
      rw [List.flatMap_cons, List.flatMap_cons, List.length_append, List.length_append]
      exact Nat.add_le_add p.length_unescaped_le ih

/-- Only percent signs are written differently in a format. -/
theorem flatMap_unescaped_eq_iff {pieces : List (Piece α)} :
    pieces.flatMap Piece.unescaped = pieces.flatMap Piece.format ↔ .character '%' ∉ pieces := by
  induction pieces with
  | nil => simp
  | cons p pieces ih =>
      rw [List.flatMap_cons, List.flatMap_cons, List.mem_cons, not_or]
      by_cases hp : p = .character '%'
      · -- from here on the format is longer
        subst hp
        have hlength := length_flatMap_unescaped_le pieces
        refine ⟨fun h => ?_, fun h => absurd rfl h.1⟩
        have hunescaped : (Piece.character '%' : Piece α).unescaped = ['%'] := rfl
        have hformat : (Piece.character '%' : Piece α).format = ['%', '%'] := rfl
        have hlengths := congrArg List.length h
        rw [hunescaped, hformat, List.length_append, List.length_append] at hlengths
        simp only [List.length_cons, List.length_nil] at hlengths
        omega
      · rw [Piece.format_of_ne hp, List.append_cancel_left_eq, ih]
        exact ⟨fun h => ⟨Ne.symm hp, h⟩, fun h => h.2⟩

end Sprintf

/-! ## Request paths -/

namespace PathSegment

/-- The text of a segment that stands for itself. -/
def fixedText : PathSegment → List Char
  | .literal text | .verb text => text.toList
  | .variable _ => []

/-- What is to be printed for a segment: a literal after a slash, the request field of a variable
after a slash, and a verb after a colon. -/
def printed : PathSegment → List (Sprintf.Piece String)
  | .literal text => .character '/' :: text.toList.map .character
  | .variable path => [.character '/', .argument (", req." ++ GoCodec.accessor path)]
  | .verb text => .character ':' :: text.toList.map .character

theorem mem_printed_iff {s : PathSegment} : .character '%' ∈ s.printed ↔ '%' ∈ s.fixedText := by
  cases s <;> simp [printed, fixedText]

theorem flatMap_unescaped_character (cs : List Char) :
    (cs.map fun c => (.character c : Sprintf.Piece String)).flatMap Sprintf.Piece.unescaped
      = cs := by
  rw [List.flatMap_map]
  exact List.flatMap_singleton' cs

/-- A segment is put into the format as it is. -/
theorem toList_segmentFormat : ∀ s : PathSegment,
    (GoCodec.segmentFormat s).toList = s.printed.flatMap Sprintf.Piece.unescaped
  | .literal text => by
      rw [GoCodec.segmentFormat, String.toList_append, printed, List.flatMap_cons,
        flatMap_unescaped_character]
      rfl
  | .variable path => by simp [GoCodec.segmentFormat, printed, Sprintf.Piece.unescaped]
  | .verb text => by
      rw [GoCodec.segmentFormat, String.toList_append, printed, List.flatMap_cons,
        flatMap_unescaped_character]
      rfl

/-- The argument of a segment is that of its variable. -/
theorem filterMap_argument?_printed (s : PathSegment) :
    s.printed.filterMap Sprintf.Piece.argument? = (GoCodec.segmentArgument? s).toList := by
  cases s <;>
    simp [printed, List.filterMap_cons, Sprintf.Piece.argument?, GoCodec.segmentArgument?]

end PathSegment

namespace GoCodec

variable (b : HttpBinding)

theorem toList_pathFormat :
    (pathFormat b).toList
      = (b.template.flatMap PathSegment.printed).flatMap Sprintf.Piece.unescaped := by
  rw [pathFormat, String.toList_join, List.flatMap_map, List.flatMap_assoc]
  simp only [PathSegment.toList_segmentFormat]

theorem pathArguments_eq :
    pathArguments b
      = (b.template.flatMap PathSegment.printed).filterMap Sprintf.Piece.argument? := by
  rw [pathArguments, List.filterMap_flatMap, List.filterMap_eq_flatMap_toList]
  simp only [PathSegment.filterMap_argument?_printed]

/-- **The path is printed unless a percent sign stands in it.**  The format takes all arguments,
each in the place of its variable, and leaves the other text as it is, if and only if no literal and
no verb has a percent sign. -/
theorem print?_pathFormat_iff :
    Sprintf.print? (pathFormat b).toList (pathArguments b)
        = some (b.template.flatMap PathSegment.printed)
      ↔ ∀ s ∈ b.template, '%' ∉ s.fixedText := by
  rw [Sprintf.print?_eq_some_iff, and_iff_left (pathArguments_eq b), toList_pathFormat,
    Sprintf.flatMap_unescaped_eq_iff, List.mem_flatMap]
  simp only [PathSegment.mem_printed_iff, not_exists, not_and]

end GoCodec

/-! ## Templates that are read -/

/-- What stands for itself in a template stands in its text. -/
theorem PathTemplate.fixedText_subset {t : String} {segments : List PathSegment}
    (h : parse t = some segments) {s : PathSegment} (hs : s ∈ segments) :
    s.fixedText ⊆ t.toList := by
  obtain ⟨w, -, htext, rfl⟩ := read_eq_some_iff.1 h
  rw [← htext]
  rcases List.mem_append.1 hs with hs | hs
  · obtain ⟨p, hp, rfl⟩ := List.mem_map.1 hs
    have hpart := (text_within_of_mem hp).subset
    cases p with
    | field path pattern => exact List.nil_subset _
    | literal text =>
        rw [Part.segment, PathSegment.fixedText, String.toList_ofList]
        exact hpart
  · rw [Option.mem_toList, Option.map_eq_some_iff] at hs
    obtain ⟨verb, hverb, rfl⟩ := hs
    rw [PathSegment.fixedText, String.toList_ofList, Written.text, hverb]
    intro c hc
    refine List.mem_cons_of_mem _ (List.mem_append_right _ ?_)
    exact List.mem_cons_of_mem _ hc

/-- **The format of a path template that is read** prints the path, with each argument in the place
of its variable and the literals and the verb as they are, if and only if none of these has a
percent sign.  So it does when there is no percent sign in the text of the template. -/
theorem GoCodec.pathFormat_exact {t : String} {b : HttpBinding}
    (h : PathTemplate.parse t = some b.template) :
    (Sprintf.print? (pathFormat b).toList (pathArguments b)
        = some (b.template.flatMap PathSegment.printed)
      ↔ ∀ s ∈ b.template, '%' ∉ s.fixedText) ∧
    ('%' ∉ t.toList →
      Sprintf.print? (pathFormat b).toList (pathArguments b)
        = some (b.template.flatMap PathSegment.printed)) := by
  refine ⟨print?_pathFormat_iff b, fun hpercent => ?_⟩
  refine (print?_pathFormat_iff b).2 fun s hs hmem => ?_
  exact hpercent (PathTemplate.fixedText_subset h hs hmem)

/-- A book is archived, at a path with a pattern and a verb. -/
def archiveBook : HttpBinding where
  verb := "POST"
  template := [.literal "v1", .variable "book.name", .verb "archive"]

theorem archiveBook_printed :
    PathTemplate.parse "/v1/\x7bbook.name=shelves/*\x7d:archive" = some archiveBook.template ∧
      GoCodec.pathFormat archiveBook = "/v1/%s:archive" ∧
      Sprintf.print? (GoCodec.pathFormat archiveBook).toList (GoCodec.pathArguments archiveBook)
        = some (archiveBook.template.flatMap PathSegment.printed) :=
  have h : PathTemplate.parse "/v1/\x7bbook.name=shelves/*\x7d:archive"
      = some archiveBook.template := by decide
  ⟨h, by decide, (GoCodec.pathFormat_exact h).2 (by decide)⟩

/-- A discount is found by a path with a percent sign and an `s` in a literal. -/
def findDiscount : HttpBinding where
  verb := "GET"
  template := [.literal "100%s", .variable "name"]

/-- The literal takes the argument of the variable, and the variable has none left. -/
theorem percentLiteral_misprinted :
    PathTemplate.parse "/100%s/\x7bname\x7d" = some findDiscount.template ∧
      GoCodec.pathFormat findDiscount = "/100%s/%s" ∧
      (GoCodec.pathArguments findDiscount).length = 1 ∧
      Sprintf.print? (GoCodec.pathFormat findDiscount).toList (GoCodec.pathArguments findDiscount)
        = none := by
  decide

end ClientGen
