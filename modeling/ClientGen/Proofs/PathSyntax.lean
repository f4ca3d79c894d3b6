import ClientGen.Schema.PathTemplate
import Mathlib.Data.List.Basic
import Mathlib.Data.List.Forall2
import Mathlib.Data.List.TakeWhile

/-!
# Path templates as they are written

A reader of path templates cuts a text at slashes, at the last colon and at braces.  This file lists
what a template is made of, without a reader, and says where each cut falls.

* `Written` — a template in its parts, with its text and what is kept of it.  `Written.Fits` says
  which parts there may be; what may stand between the braces of a variable is left open.
* `Closes` — a text has no slash outside of braces and no open brace.  A text is split into closed
  parts and in no other way (`splitParts_eq_some_iff`).
* `Reenters` — what stands between the braces at the ends of a closed part (`Part.fits_iff`).
* `splitVerb_cases`, `readPart_eq_some_iff` — what is read at the end of the last part, and from a
  single part.
-/

namespace ClientGen

/-! ## Cutting a text -/

namespace Text

theorem dropStart?_eq_some_iff {start cs rest : List Char} :
    dropStart? start cs = some rest ↔ cs = start ++ rest := by
  induction start generalizing cs with
  | nil => simp [dropStart?]
  | cons p ps ih =>
      cases cs with
      | nil => simp [dropStart?]
      | cons c cs =>
          rw [dropStart?]
          by_cases h : p = c
          · simp [h, ih]
          · simp [h, Ne.symm h]

theorem dropEnd?_eq_some_iff {ending cs rest : List Char} :
    dropEnd? ending cs = some rest ↔ cs = rest ++ ending := by
  rw [dropEnd?, Option.map_eq_some_iff]
  constructor
  · rintro ⟨tail, htail, rfl⟩
    rw [dropStart?_eq_some_iff] at htail
    rw [← List.reverse_reverse cs, htail, List.reverse_append, List.reverse_reverse]
  · rintro rfl
    exact ⟨rest.reverse, dropStart?_eq_some_iff.2 (List.reverse_append ..), List.reverse_reverse _⟩

theorem splitAtFirst_cons (sep c : Char) (cs : List Char) :
    splitAtFirst sep (c :: cs)
      = if c = sep then some ([], cs)
        else (splitAtFirst sep cs).map fun (before, after) => (c :: before, after) := by
  by_cases h : c = sep
  · simp [splitAtFirst, h]
  · simp only [splitAtFirst, List.dropWhile_cons, List.takeWhile_cons, h, ne_eq, not_false_eq_true,
      decide_true, if_true, if_false]
    split <;> simp

theorem splitAtFirst_eq_some_iff {sep : Char} {cs before after : List Char} :
    splitAtFirst sep cs = some (before, after) ↔ cs = before ++ sep :: after ∧ sep ∉ before := by
  induction cs generalizing before with
  | nil => simp [splitAtFirst]
  | cons c cs ih =>
      rw [splitAtFirst_cons]
      by_cases h : c = sep
      · cases before with
        | nil => simp [h]
        | cons b before =>
            rw [if_pos h]
            refine ⟨fun heq => by simp at heq, ?_⟩
            -- a separator in front leaves nothing before it
            rintro ⟨heq, hmem⟩
            exact absurd (List.mem_cons.2 (Or.inl (h.symm.trans (List.cons.inj heq).1))) hmem
      · cases before with
        | nil => simp [h]
        | cons b before =>
            rw [if_neg h, Option.map_eq_some_iff]
            constructor
            · rintro ⟨cut, hcut, heq⟩
              cases heq
              obtain ⟨rfl, hmem⟩ := ih.1 hcut
              exact ⟨rfl, by simp [Ne.symm h, hmem]⟩
            · rintro ⟨heq, hmem⟩
              obtain ⟨rfl, rfl⟩ := List.cons.inj heq
              exact ⟨(before, after), ih.2 ⟨rfl, fun h => hmem (List.mem_cons_of_mem _ h)⟩, rfl⟩

theorem splitAtFirst_eq_none_iff {sep : Char} {cs : List Char} :
    splitAtFirst sep cs = none ↔ sep ∉ cs := by
  induction cs with
  | nil => simp [splitAtFirst]
  | cons c cs ih =>
      rw [splitAtFirst_cons]
      by_cases h : c = sep
      · simp [h]
      · simp [h, ih, Ne.symm h]

end Text

namespace PathTemplate

/-! ## Written templates -/

/-- There is no brace in the text. -/
def NoBraces (text : List Char) : Prop :=
  '\x7b' ∉ text ∧ '\x7d' ∉ text

/-- What stands between two slashes of a template. -/
inductive Part where
  /-- Text that stands for itself. -/
  | literal (text : List Char)
  /-- A request field in braces; a pattern may follow after an equals sign. -/
  | field (path : List Char) (pattern : Option (List Char))
deriving DecidableEq, Repr

/-- A template in its parts. -/
structure Written where
  parts : List Part
  verb : Option (List Char) := none
deriving DecidableEq, Repr

/-- The text between the braces of a field. -/
def fieldText (path : List Char) (pattern : Option (List Char)) : List Char :=
  path ++ (pattern.map ('=' :: ·)).getD []

/-- The text of a part. -/
def Part.text : Part → List Char
  | .literal text => text
  | .field path pattern => '\x7b' :: (fieldText path pattern ++ ['\x7d'])

/-- What is kept of a part. -/
def Part.segment : Part → PathSegment
  | .literal text => .literal (String.ofList text)
  | .field path _ => .variable (String.ofList path)

/-- A verb with the colon before it. -/
def verbText (verb : Option (List Char)) : List Char :=
  (verb.map (':' :: ·)).getD []

/-- The text of a template: a slash, the parts with slashes between them, and the verb. -/
def Written.text (w : Written) : List Char :=
  '/' :: (['/'].intercalate (w.parts.map Part.text) ++ verbText w.verb)

/-- What is kept of a template: its parts in their order, then the verb. -/
def Written.segments (w : Written) : List PathSegment :=
  w.parts.map Part.segment ++ (w.verb.map fun verb => .verb (String.ofList verb)).toList

/-- A literal has neither slashes nor braces, and the path of a field has no equals sign.  `Inner`
is what may stand between the braces of a field. -/
def Part.Fits (Inner : List Char → Prop) : Part → Prop
  | .literal text => text ≠ [] ∧ '/' ∉ text ∧ NoBraces text
  | .field path pattern => path ≠ [] ∧ '=' ∉ path ∧ Inner (fieldText path pattern)

/-- All parts fit, and a literal at the end has no colon that could be taken for that of a verb. -/
structure Written.Fits (Inner : List Char → Prop) (w : Written) : Prop where
  nonempty : w.parts ≠ []
  parts : ∀ p ∈ w.parts, p.Fits Inner
  last : ∀ text, w.parts.getLast? = some (.literal text) → w.verb = none → ':' ∉ text
  verb : ∀ text, w.verb = some text → text ≠ [] ∧ '/' ∉ text ∧ ':' ∉ text ∧ NoBraces text

/-- A text that leaves the braces around it any number of times, and each time enters braces again
before the next slash. -/
inductive Reenters : List Char → Prop
  | stays {inside : List Char} (h : NoBraces inside) : Reenters inside
  | leaves {inside outside rest : List Char} (hin : NoBraces inside) (hout : NoBraces outside)
      (hslash : '/' ∉ outside) (hrest : Reenters rest) :
      Reenters (inside ++ '\x7d' :: (outside ++ '\x7b' :: rest))

theorem Part.Fits.mono {Inner Inner' : List Char → Prop} (himp : ∀ text, Inner text → Inner' text)
    {p : Part} (h : p.Fits Inner) : p.Fits Inner' := by
  cases p with
  | literal text => exact h
  | field path pattern => exact ⟨h.1, h.2.1, himp _ h.2.2⟩

theorem Written.Fits.mono {Inner Inner' : List Char → Prop}
    (himp : ∀ text, Inner text → Inner' text) {w : Written} (h : w.Fits Inner) : w.Fits Inner' where
  nonempty := h.nonempty
  parts p hp := (h.parts p hp).mono himp
  last := h.last
  verb := h.verb

/-! ## Closed parts -/

/-- The rest of a part, read in or out of braces: no slash stands outside of braces, and no brace is
open at the end. -/
def Closes : (inBraces : Bool) → List Char → Prop
  | inBraces, [] => inBraces = false
  | inBraces, c :: rest =>
      if c = '\x7b' then inBraces = false ∧ Closes true rest
      else if c = '\x7d' then inBraces = true ∧ Closes false rest
      else (c = '/' → inBraces = true) ∧ Closes inBraces rest

theorem closes_nil {b : Bool} : Closes b [] ↔ b = false := Iff.rfl

theorem closes_open {b : Bool} {rest : List Char} :
    Closes b ('\x7b' :: rest) ↔ b = false ∧ Closes true rest := by
  rw [Closes, if_pos rfl]

theorem closes_close {b : Bool} {rest : List Char} :
    Closes b ('\x7d' :: rest) ↔ b = true ∧ Closes false rest := by
  rw [Closes, if_neg (by decide), if_pos rfl]

theorem closes_cons {b : Bool} {c : Char} {rest : List Char} (ho : c ≠ '\x7b') (hc : c ≠ '\x7d') :
    Closes b (c :: rest) ↔ (c = '/' → b = true) ∧ Closes b rest := by
  rw [Closes, if_neg ho, if_neg hc]

/-- Text without braces does not change on which side of a brace the reader is. -/
theorem closes_append_iff {b : Bool} {text rest : List Char} (h : NoBraces text)
    (hslash : b = false → '/' ∉ text) : Closes b (text ++ rest) ↔ Closes b rest := by
  induction text with
  | nil => rfl
  | cons c text ih =>
      obtain ⟨ho, hc⟩ := h
      rw [List.mem_cons, not_or] at ho hc
      have htail : b = false → '/' ∉ text := fun hb hmem =>
        hslash hb (List.mem_cons_of_mem _ hmem)
      rw [List.cons_append, closes_cons (Ne.symm ho.1) (Ne.symm hc.1), ih ⟨ho.2, hc.2⟩ htail,
        and_iff_right_iff_imp]
      rintro - rfl
      cases b with
      | true => rfl
      | false => exact absurd (List.mem_cons_self ..) (hslash rfl)

theorem closes_of_noBraces {text : List Char} (h : NoBraces text) (hslash : '/' ∉ text) :
    Closes false text := by
  have hcloses : Closes false (text ++ []) := (closes_append_iff h fun _ => hslash).2 rfl
  rwa [List.append_nil] at hcloses

theorem Closes.append {b : Bool} {before after : List Char} (h : Closes b before)
    (hafter : Closes false after) : Closes b (before ++ after) := by
  induction before generalizing b with
  | nil =>
      obtain rfl := closes_nil.1 h
      exact hafter
  | cons c before ih =>
      rw [List.cons_append]
      by_cases ho : c = '\x7b'
      · subst ho
        rw [closes_open] at h ⊢
        exact ⟨h.1, ih h.2⟩
      · by_cases hc : c = '\x7d'
        · subst hc
          rw [closes_close] at h ⊢
          exact ⟨h.1, ih h.2⟩
        · rw [closes_cons ho hc] at h ⊢
          exact ⟨h.1, ih h.2⟩

/-- Where no brace is closed any more, none is open. -/
theorem outside_of_closes {b : Bool} {text : List Char} (h : Closes b text) (hc : '\x7d' ∉ text) :
    b = false ∧ '/' ∉ text ∧ NoBraces text := by
  induction text generalizing b with
  | nil => exact ⟨h, List.not_mem_nil, List.not_mem_nil, List.not_mem_nil⟩
  | cons c text ih =>
      rw [List.mem_cons, not_or] at hc
      by_cases ho : c = '\x7b'
      · -- this brace would have to be closed
        subst ho
        cases (ih (closes_open.1 h).2 hc.2).1
      · rw [closes_cons ho (Ne.symm hc.1)] at h
        obtain ⟨rfl, hslash, hbraces⟩ := ih h.2 hc.2
        have hne : c ≠ '/' := fun hc => Bool.false_ne_true (h.1 hc)
        refine ⟨rfl, ?_, ?_, ?_⟩
        · simp [Ne.symm hne, hslash]
        · simp [Ne.symm ho, hbraces.1]
        · simp [hc.1, hbraces.2]

/-- What stands before a text without closing braces is closed as well. -/
theorem closes_of_append {b : Bool} {before after : List Char} (h : Closes b (before ++ after))
    (hc : '\x7d' ∉ after) : Closes b before ∧ '/' ∉ after ∧ NoBraces after := by
  induction before generalizing b with
  | nil => exact outside_of_closes h hc
  | cons c before ih =>
      rw [List.cons_append] at h
      by_cases ho : c = '\x7b'
      · subst ho
        rw [closes_open] at h ⊢
        exact ⟨⟨h.1, (ih h.2).1⟩, (ih h.2).2⟩
      · by_cases hcl : c = '\x7d'
        · subst hcl
          rw [closes_close] at h ⊢
          exact ⟨⟨h.1, (ih h.2).1⟩, (ih h.2).2⟩
        · rw [closes_cons ho hcl] at h ⊢
          exact ⟨⟨h.1, (ih h.2).1⟩, (ih h.2).2⟩

/-! ## Between the braces of a field -/

theorem NoBraces.cons {c : Char} {text : List Char} (h : NoBraces text) (ho : c ≠ '\x7b')
    (hc : c ≠ '\x7d') : NoBraces (c :: text) :=
  ⟨by simp [Ne.symm ho, h.1], by simp [Ne.symm hc, h.2]⟩

theorem noBraces_nil : NoBraces [] := ⟨List.not_mem_nil, List.not_mem_nil⟩

theorem Reenters.cons {c : Char} {text : List Char} (h : Reenters text) (ho : c ≠ '\x7b')
    (hc : c ≠ '\x7d') : Reenters (c :: text) := by
  cases h with
  | stays h => exact .stays (h.cons ho hc)
  | leaves hin hout hslash hrest => exact .leaves (hin.cons ho hc) hout hslash hrest

theorem Reenters.closes {text : List Char} (h : Reenters text) :
    Closes true (text ++ ['\x7d']) := by
  induction h with
  | stays h =>
      rw [closes_append_iff h (by simp), closes_close, closes_nil]
      exact ⟨rfl, rfl⟩
  | leaves hin hout hslash hrest ih =>
      rw [List.append_assoc, closes_append_iff hin (by simp), List.cons_append, closes_close,
        List.append_assoc, closes_append_iff hout fun _ => hslash, List.cons_append, closes_open]
      exact ⟨rfl, rfl, ih⟩

/-- Up to its last brace, a closed part is inside of braces or enters them. -/
theorem reenters_of_closes {text : List Char} :
    (Closes true (text ++ ['\x7d']) → Reenters text) ∧
      (Closes false (text ++ ['\x7d']) → ∃ outside rest, text = outside ++ '\x7b' :: rest ∧
        NoBraces outside ∧ '/' ∉ outside ∧ Reenters rest) := by
  induction text with
  | nil =>
      refine ⟨fun _ => .stays noBraces_nil, fun h => ?_⟩
      cases (closes_close.1 h).1
  | cons c text ih =>
      rw [List.cons_append]
      by_cases ho : c = '\x7b'
      · subst ho
        refine ⟨fun h => ?_, fun h => ?_⟩
        · cases (closes_open.1 h).1
        · exact ⟨[], text, rfl, noBraces_nil, List.not_mem_nil, ih.1 (closes_open.1 h).2⟩
      · by_cases hc : c = '\x7d'
        · subst hc
          refine ⟨fun h => ?_, fun h => ?_⟩
          · obtain ⟨outside, rest, rfl, hout, hslash, hrest⟩ := ih.2 (closes_close.1 h).2
            exact @Reenters.leaves [] outside rest noBraces_nil hout hslash hrest
          · cases (closes_close.1 h).1
        · refine ⟨fun h => ?_, fun h => ?_⟩
          · exact (ih.1 ((closes_cons ho hc).1 h).2).cons ho hc
          · obtain ⟨hne, h⟩ := (closes_cons ho hc).1 h
            obtain ⟨outside, rest, rfl, hout, hslash, hrest⟩ := ih.2 h
            refine ⟨c :: outside, rest, rfl, hout.cons ho hc, ?_, hrest⟩
            rw [List.mem_cons, not_or]
            exact ⟨fun h => Bool.false_ne_true (hne h.symm), hslash⟩

/-! ## Splitting at slashes -/

theorem intercalate_cons (part : List Char) (rest : List (List Char)) :
    ['/'].intercalate (part :: rest) = part ++ rest.flatMap ('/' :: ·) := by
  induction rest generalizing part with
  | nil => simp
  | cons next rest ih => rw [List.intercalate_cons_cons, ih, List.flatMap_cons]; simp

theorem intercalate_concat_append (parts : List (List Char)) (last text : List Char) :
    ['/'].intercalate (parts ++ [last]) ++ text = ['/'].intercalate (parts ++ [last ++ text]) := by
  cases parts with
  | nil => simp
  | cons part parts => simp [intercalate_cons]

/-- Text before a slash or the end is one part. -/
theorem splitParts_append {b : Bool} {part tail : List Char} {rest : List (List Char)}
    (h : Closes b part) (htail : splitParts false tail = some ([] :: rest)) :
    splitParts b (part ++ tail) = some (part :: rest) := by
  induction part generalizing b with
  | nil =>
      obtain rfl := closes_nil.1 h
      exact htail
  | cons c part ih =>
      rw [List.cons_append, splitParts]
      by_cases ho : c = '\x7b'
      · subst ho
        obtain ⟨hb, hpart⟩ := closes_open.1 h
        rw [if_pos rfl, if_neg (by simp [hb]), ih hpart]
        rfl
      · by_cases hc : c = '\x7d'
        · subst hc
          obtain ⟨hb, hpart⟩ := closes_close.1 h
          rw [if_neg ho, if_pos rfl, if_pos hb, ih hpart]
          rfl
        · obtain ⟨hslash, hpart⟩ := (closes_cons ho hc).1 h
          have hstay : ¬(c = '/' ∧ b = false) := by
            rintro ⟨hc, rfl⟩
            exact Bool.false_ne_true (hslash hc)
          rw [if_neg ho, if_neg hc, if_neg hstay, ih hpart]
          rfl

/-- Closed parts with slashes between them are split at these slashes. -/
theorem splitParts_join {b : Bool} {part : List Char} {rest : List (List Char)}
    (h : Closes b part) (hrest : ∀ p ∈ rest, Closes false p) :
    splitParts b (part ++ rest.flatMap ('/' :: ·)) = some (part :: rest) := by
  induction rest generalizing b part with
  | nil => exact splitParts_append h rfl
  | cons p rest ih =>
      refine splitParts_append h ?_
      have hp := ih (hrest p (List.mem_cons_self ..)) fun q hq =>
        hrest q (List.mem_cons_of_mem _ hq)
      rw [List.flatMap_cons, List.cons_append, splitParts, if_neg (by decide), if_neg (by decide),
        if_pos ⟨rfl, rfl⟩, hp]
      rfl

/-- The parts of a text are closed, and slashes join them to the text. -/
theorem exists_of_splitParts {b : Bool} {cs : List Char} {parts : List (List Char)}
    (h : splitParts b cs = some parts) : ∃ part rest, parts = part :: rest ∧
      cs = part ++ rest.flatMap ('/' :: ·) ∧ Closes b part ∧ ∀ p ∈ rest, Closes false p := by
  induction cs generalizing b parts with
  | nil =>
      cases b with
      | true => cases h
      | false =>
          cases h
          exact ⟨[], [], rfl, rfl, rfl, fun p hp => absurd hp List.not_mem_nil⟩
  | cons c cs ih =>
      -- a character that does not split belongs to the first part
      have hextend : ∀ {b' : Bool}, (splitParts b' cs).map (extendFirst c) = some parts →
          (∀ part, Closes b' part → Closes b (c :: part)) → ∃ part rest, parts = part :: rest ∧
          c :: cs = part ++ rest.flatMap ('/' :: ·) ∧ Closes b part ∧
            ∀ p ∈ rest, Closes false p := by
        intro b' h hcloses
        obtain ⟨parts', hparts', rfl⟩ := Option.map_eq_some_iff.1 h
        obtain ⟨part, rest, rfl, rfl, hpart, hrest⟩ := ih hparts'
        exact ⟨c :: part, rest, rfl, rfl, hcloses part hpart, hrest⟩
      rw [splitParts] at h
      split at h
      · rename_i ho
        subst ho
        cases b with
        | true => cases h
        | false => exact hextend h fun part hpart => closes_open.2 ⟨rfl, hpart⟩
      · rename_i ho
        split at h
        · rename_i hc
          subst hc
          cases b with
          | true => exact hextend h fun part hpart => closes_close.2 ⟨rfl, hpart⟩
          | false => cases h
        · rename_i hc
          split at h
          · rename_i hslash
            obtain ⟨rfl, rfl⟩ := hslash
            obtain ⟨parts', hparts', rfl⟩ := Option.map_eq_some_iff.1 h
            obtain ⟨part, rest, rfl, rfl, hpart, hrest⟩ := ih hparts'
            exact ⟨[], part :: rest, rfl, rfl, rfl, List.forall_mem_cons.2 ⟨hpart, hrest⟩⟩
          · rename_i hslash
            refine hextend h fun part hpart => (closes_cons ho hc).2 ⟨fun hc => ?_, hpart⟩
            cases b with
            | true => rfl
            | false => exact absurd ⟨hc, rfl⟩ hslash

/-- **A text is split into the closed parts that slashes join to it.** -/
theorem splitParts_eq_some_iff {cs : List Char} {parts : List (List Char)} :
    splitParts false cs = some parts
      ↔ parts ≠ [] ∧ (∀ p ∈ parts, Closes false p) ∧ ['/'].intercalate parts = cs := by
  constructor
  · intro h
    obtain ⟨part, rest, rfl, rfl, hpart, hrest⟩ := exists_of_splitParts h
    exact ⟨List.cons_ne_nil _ _, List.forall_mem_cons.2 ⟨hpart, hrest⟩, intercalate_cons part rest⟩
  · rintro ⟨hne, hcloses, rfl⟩
    obtain ⟨part, rest, rfl⟩ := List.exists_cons_of_ne_nil hne
    rw [List.forall_mem_cons] at hcloses
    rw [intercalate_cons, splitParts_join hcloses.1 hcloses.2]

/-! ## Taking off the verb -/

theorem splitAtLast_eq_some_iff {sep : Char} {cs before after : List Char} :
    splitAtLast sep cs = some (before, after) ↔ cs = before ++ sep :: after ∧ sep ∉ after := by
  rw [splitAtLast, Option.map_eq_some_iff]
  constructor
  · rintro ⟨⟨x, y⟩, h, hxy⟩
    obtain ⟨rfl, rfl⟩ := Prod.mk.inj hxy
    obtain ⟨h, hsep⟩ := Text.splitAtFirst_eq_some_iff.1 h
    refine ⟨?_, fun hmem => hsep (List.mem_reverse.1 hmem)⟩
    rw [← List.reverse_reverse cs, h]
    simp
  · rintro ⟨rfl, hsep⟩
    refine ⟨(after.reverse, before.reverse), Text.splitAtFirst_eq_some_iff.2 ⟨by simp, ?_⟩, by simp⟩
    exact fun hmem => hsep (List.mem_reverse.1 hmem)

/-- No closing brace follows the last colon of the part. -/
def EndsInVerb (part : List Char) : Prop :=
  ∃ before verb, part = before ++ ':' :: verb ∧ ':' ∉ verb ∧ '\x7d' ∉ verb

theorem endsInVerb_of_mem {text : List Char} (hcolon : ':' ∈ text) (hbrace : '\x7d' ∉ text) :
    EndsInVerb text := by
  cases h : splitAtLast ':' text with
  | none =>
      rw [splitAtLast, Option.map_eq_none_iff, Text.splitAtFirst_eq_none_iff] at h
      exact absurd (List.mem_reverse.2 hcolon) h
  | some cut =>
      obtain ⟨htext, hcolon⟩ := splitAtLast_eq_some_iff.1 h
      refine ⟨cut.1, cut.2, htext, hcolon, fun hmem => hbrace ?_⟩
      rw [htext]
      exact List.mem_append_right _ (List.mem_cons_of_mem _ hmem)

/-- A field ends in a brace and not in a verb. -/
theorem not_endsInVerb_field (path : List Char) (pattern : Option (List Char)) :
    ¬EndsInVerb (Part.field path pattern).text := by
  rintro ⟨before, verb, htext, -, hbrace⟩
  have hlast := congrArg List.getLast? htext
  rw [Part.text, ← List.cons_append, List.getLast?_concat, List.getLast?_append_cons] at hlast
  cases verb with
  | nil => simp at hlast
  | cons c verb =>
      rw [List.getLast?_cons_cons] at hlast
      exact hbrace (List.mem_of_getLast? hlast.symm)

theorem splitVerb_append {before verb : List Char} (hcolon : ':' ∉ verb) (hbrace : '\x7d' ∉ verb) :
    splitVerb (before ++ ':' :: verb) = (before, some verb) := by
  rw [splitVerb, splitAtLast_eq_some_iff.2 ⟨rfl, hcolon⟩]
  exact if_neg hbrace

theorem splitVerb_of_not_endsInVerb {part : List Char} (h : ¬EndsInVerb part) :
    splitVerb part = (part, none) := by
  rw [splitVerb]
  split
  · rename_i before verb hsplit
    obtain ⟨hpart, hcolon⟩ := splitAtLast_eq_some_iff.1 hsplit
    by_cases hbrace : '\x7d' ∈ verb
    · exact if_pos hbrace
    · exact absurd ⟨before, verb, hpart, hcolon, hbrace⟩ h
  · rfl

/-- A closed part is a closed text and a verb; without a verb there is none to be taken off. -/
theorem splitVerb_cases {part : List Char} (h : Closes false part) :
    ∃ before verb, splitVerb part = (before, verb) ∧ part = before ++ verbText verb ∧
      Closes false before ∧ (verb = none → ¬EndsInVerb before) ∧
      ∀ v, verb = some v → '/' ∉ v ∧ ':' ∉ v ∧ NoBraces v := by
  by_cases hverb : EndsInVerb part
  · obtain ⟨before, verb, rfl, hcolon, hbrace⟩ := hverb
    obtain ⟨hbefore, hslash, hbraces⟩ := closes_of_append h (by simp [hbrace])
    refine ⟨before, some verb, splitVerb_append hcolon hbrace, rfl, hbefore, by simp, ?_⟩
    rintro v ⟨⟩
    exact ⟨fun h => hslash (List.mem_cons_of_mem _ h), hcolon,
      fun h => hbraces.1 (List.mem_cons_of_mem _ h), hbrace⟩
  · refine ⟨part, none, splitVerb_of_not_endsInVerb hverb, ?_, h, fun _ => hverb, by simp⟩
    rw [verbText, Option.map_none, Option.getD_none, List.append_nil]

theorem splitLastVerb_concat (parts : List (List Char)) (last : List Char) :
    splitLastVerb (parts ++ [last]) = (parts ++ [(splitVerb last).1], (splitVerb last).2) := by
  induction parts with
  | nil => rfl
  | cons part parts ih =>
      cases parts with
      | nil => rfl
      | cons next parts =>
          rw [List.cons_append, List.cons_append, splitLastVerb, ← List.cons_append, ih]
          · rfl
          · simp

theorem readVerb_eq_some_iff {verb : Option (List Char)} {segments : List PathSegment} :
    readVerb verb = some segments ↔ verb ≠ some [] ∧
      (verb.map fun verb => PathSegment.verb (String.ofList verb)).toList = segments := by
  cases verb with
  | none => simp [readVerb]
  | some verb => cases verb <;> simp [readVerb]

/-! ## Reading parts -/

theorem betweenBraces?_eq_some_iff {part inner : List Char} :
    betweenBraces? part = some inner ↔ part = '\x7b' :: (inner ++ ['\x7d']) := by
  rw [betweenBraces?, Option.bind_eq_some_iff]
  constructor
  · rintro ⟨rest, hrest, hinner⟩
    rw [Text.dropStart?_eq_some_iff.1 hrest, Text.dropEnd?_eq_some_iff.1 hinner]
    rfl
  · rintro rfl
    exact ⟨_, Text.dropStart?_eq_some_iff.2 rfl, Text.dropEnd?_eq_some_iff.2 rfl⟩

/-- The path of a field ends at the first equals sign. -/
theorem takeWhile_fieldText {path : List Char} (pattern : Option (List Char)) (h : '=' ∉ path) :
    (fieldText path pattern).takeWhile (· ≠ '=') = path := by
  have hpath : ∀ c ∈ path, decide (c ≠ '=') = true := by
    intro c hc
    simpa using fun he : c = '=' => h (he ▸ hc)
  rw [fieldText, List.takeWhile_append_of_pos hpath]
  cases pattern <;> simp

theorem exists_fieldText (inner : List Char) :
    ∃ pattern, inner = fieldText (inner.takeWhile (· ≠ '=')) pattern := by
  have happend := List.takeWhile_append_dropWhile (p := (· ≠ '=')) (l := inner)
  cases h : inner.dropWhile (· ≠ '=') with
  | nil =>
      rw [h] at happend
      exact ⟨none, happend.symm⟩
  | cons c pattern =>
      have hc : c = '=' := by
        have hhead := List.head?_dropWhile_not (· ≠ '=') inner
        rw [h] at hhead
        simpa using hhead
      rw [h, hc] at happend
      exact ⟨some pattern, happend.symm⟩

/-- A part that a segment can be read from. -/
def Part.Readable : Part → Prop
  | .literal text => text ≠ [] ∧ NoBraces text
  | .field path _ => path ≠ [] ∧ '=' ∉ path

/-- A part fits if it is readable and closed. -/
theorem Part.fits_iff {p : Part} : p.Fits Reenters ↔ p.Readable ∧ Closes false p.text := by
  cases p with
  | literal text =>
      constructor
      · rintro ⟨hne, hslash, hbraces⟩
        exact ⟨⟨hne, hbraces⟩, closes_of_noBraces hbraces hslash⟩
      · rintro ⟨⟨hne, hbraces⟩, hcloses⟩
        exact ⟨hne, (outside_of_closes hcloses hbraces.2).2.1, hbraces⟩
  | field path pattern =>
      constructor
      · rintro ⟨hne, heq, hinner⟩
        exact ⟨⟨hne, heq⟩, closes_open.2 ⟨rfl, hinner.closes⟩⟩
      · rintro ⟨⟨hne, heq⟩, hcloses⟩
        exact ⟨hne, heq, reenters_of_closes.1 (closes_open.1 hcloses).2⟩

theorem exists_of_readPart {text : List Char} {segment : PathSegment}
    (h : readPart text = some segment) :
    ∃ p : Part, p.Readable ∧ p.text = text ∧ p.segment = segment := by
  simp only [readPart] at h
  split at h
  · rename_i inner hinner
    rw [betweenBraces?_eq_some_iff] at hinner
    obtain ⟨pattern, hpattern⟩ := exists_fieldText inner
    split at h
    · cases h
    · rename_i hne
      refine ⟨.field (inner.takeWhile (· ≠ '=')) pattern, ⟨hne, ?_⟩, ?_, Option.some.inj h⟩
      · intro hmem
        simpa using List.mem_takeWhile_imp hmem
      · rw [Part.text, ← hpattern, hinner]
  · split at h
    · cases h
    · rename_i hplain
      rw [not_or, not_or] at hplain
      exact ⟨.literal text, hplain, rfl, Option.some.inj h⟩

theorem readPart_text {p : Part} (h : p.Readable) : readPart p.text = some p.segment := by
  cases p with
  | literal text =>
      have hnone : betweenBraces? text = none := by
        rw [← Option.not_isSome_iff_eq_none, Option.isSome_iff_exists]
        rintro ⟨inner, hinner⟩
        rw [betweenBraces?_eq_some_iff] at hinner
        exact h.2.1 (hinner ▸ List.mem_cons_self ..)
      have hplain : ¬(text = [] ∨ '\x7b' ∈ text ∨ '\x7d' ∈ text) := by
        rw [not_or, not_or]
        exact h
      rw [Part.text, readPart, hnone]
      exact if_neg hplain
  | field path pattern =>
      have hsome := betweenBraces?_eq_some_iff.2 (rfl : (Part.field path pattern).text = _)
      simp only [readPart, hsome, takeWhile_fieldText pattern h.2]
      exact if_neg h.1

/-- A segment is read from the text of a readable part, and from no other text. -/
theorem readPart_eq_some_iff {text : List Char} {segment : PathSegment} :
    readPart text = some segment ↔
      ∃ p : Part, p.Readable ∧ p.text = text ∧ p.segment = segment := by
  constructor
  · exact exists_of_readPart
  · rintro ⟨p, hp, rfl, rfl⟩
    exact readPart_text hp

theorem mapM_eq_some_iff {α β : Type} {f : α → Option β} {l : List α} {l' : List β} :
    l.mapM f = some l' ↔ List.Forall₂ (fun a b => f a = some b) l l' := by
  induction l generalizing l' with
  | nil => cases l' <;> simp
  | cons a l ih =>
      rw [List.mapM_cons]
      constructor
      · intro h
        obtain ⟨b, hb, h⟩ := Option.bind_eq_some_iff.1 h
        obtain ⟨bs, hbs, h⟩ := Option.bind_eq_some_iff.1 h
        cases h
        exact .cons hb (ih.1 hbs)
      · intro h
        cases h with
        | cons hb hbs =>
            rw [hb, ih.2 hbs]
            rfl

/-- Segments are read from the texts of readable parts, one from each. -/
theorem mapM_readPart_eq_some_iff {texts : List (List Char)} {segments : List PathSegment} :
    texts.mapM readPart = some segments ↔ ∃ parts : List Part, (∀ p ∈ parts, p.Readable) ∧
      parts.map Part.text = texts ∧ parts.map Part.segment = segments := by
  rw [mapM_eq_some_iff]
  constructor
  · intro h
    induction h with
    | nil => exact ⟨[], by simp, rfl, rfl⟩
    | cons hp _ ih =>
        obtain ⟨p, hread, rfl, rfl⟩ := readPart_eq_some_iff.1 hp
        obtain ⟨parts, hparts, rfl, rfl⟩ := ih
        exact ⟨p :: parts, List.forall_mem_cons.2 ⟨hread, hparts⟩, rfl, rfl⟩
  · rintro ⟨parts, hparts, rfl, rfl⟩
    rw [List.forall₂_map_left_iff, List.forall₂_map_right_iff, List.forall₂_same]
    exact fun p hp => readPart_eq_some_iff.2 ⟨p, hparts p hp, rfl, rfl⟩

end PathTemplate

end ClientGen
