import ClientGen.Proofs.PathSyntax
import Mathlib.Data.List.Infix

/-!
# Which path templates are read

Reading is compared with `Written`, the templates in their parts: what is written is read, and
nothing else.  The reader counts braces but looks only at the ends of a part to tell a field, so a
field may leave its braces and enter them again.

* `read_eq_some_iff` — a text is read if it is that of a written template whose fields may do so.
* `Reopens` — a brace is opened after a closed one without a slash between.  Texts that are read and
  do not reopen braces are well formed (`Written.Fits.wellFormed`), and the other way round
  (`Written.WellFormed.not_reopens`).
-/

namespace ClientGen

/-- The text that a segment holds. -/
def PathSegment.text : PathSegment → String
  | .literal text | .variable text | .verb text => text

namespace PathTemplate

/-- A template whose fields have no braces inside. -/
def Written.WellFormed (w : Written) : Prop :=
  w.Fits NoBraces

/-- A template whose fields may leave their braces and enter them again. -/
def Written.Accepted (w : Written) : Prop :=
  w.Fits Reenters

theorem Written.WellFormed.accepted {w : Written} (h : w.WellFormed) : w.Accepted :=
  Written.Fits.mono (fun _ => .stays) h

/-! ## Reading -/

theorem read_slash (rest : List Char) :
    read ('/' :: rest) = (splitParts false rest).bind fun texts =>
      ((splitLastVerb texts).1.mapM readPart).bind fun segments =>
        (readVerb (splitLastVerb texts).2).map (segments ++ ·) := by
  rw [read]
  cases splitParts false rest with
  | none => rfl
  | some texts =>
      cases h : (splitLastVerb texts).1.mapM readPart with
      | none => simp [h]
      | some segments => cases h' : readVerb (splitLastVerb texts).2 <;> simp [h, h']

/-- The parts that were read from closed texts make a template. -/
theorem fits_of_readable {texts : List (List Char)} {before : List Char}
    {parts : List Part} {verb : Option (List Char)}
    (hcloses : ∀ text ∈ texts ++ [before], Closes false text)
    (hread : ∀ p ∈ parts, p.Readable) (hparts : parts.map Part.text = texts ++ [before])
    (hnone : verb = none → ¬EndsInVerb before) (hempty : verb ≠ some [])
    (hsome : ∀ v, verb = some v → '/' ∉ v ∧ ':' ∉ v ∧ NoBraces v) :
    (⟨parts, verb⟩ : Written).Accepted := by
  have hfits : ∀ p ∈ parts, p.Fits Reenters := by
    intro p hp
    exact Part.fits_iff.2 ⟨hread p hp, hcloses p.text (hparts ▸ List.mem_map_of_mem hp)⟩
  refine ⟨?nonempty, hfits, ?last, ?verb⟩
  case nonempty =>
    rintro rfl
    simp at hparts
  case last =>
    rintro text htext rfl hcolon
    have htexts := congrArg List.getLast? hparts
    rw [List.getLast?_map, htext, List.getLast?_concat] at htexts
    obtain rfl : text = before := Option.some.inj htexts
    exact hnone rfl
      (endsInVerb_of_mem hcolon (hfits _ (List.mem_of_getLast? htext)).2.2.2)
  case verb =>
    rintro v rfl
    exact ⟨fun h => hempty (congrArg some h), hsome v rfl⟩

/-- Only what is written as a template is read. -/
theorem exists_of_read {cs : List Char} {segments : List PathSegment}
    (h : read cs = some segments) :
    ∃ w : Written, w.Accepted ∧ w.text = cs ∧ w.segments = segments := by
  obtain ⟨rest, rfl⟩ : ∃ rest, cs = '/' :: rest := by
    unfold read at h
    split at h
    · exact ⟨_, rfl⟩
    · cases h
  rw [read_slash] at h
  obtain ⟨texts, htexts, h⟩ := Option.bind_eq_some_iff.1 h
  obtain ⟨kept, hkept, h⟩ := Option.bind_eq_some_iff.1 h
  obtain ⟨ends, hends, rfl⟩ := Option.map_eq_some_iff.1 h
  obtain ⟨hne, hcloses, rfl⟩ := splitParts_eq_some_iff.1 htexts
  obtain ⟨texts, last, rfl⟩ := (List.eq_nil_or_concat' texts).resolve_left hne
  rw [List.forall_mem_append, List.forall_mem_singleton] at hcloses
  obtain ⟨before, verb, hsplit, hlast, hbefore, hnone, hsome⟩ := splitVerb_cases hcloses.2
  rw [splitLastVerb_concat, hsplit] at hkept hends
  obtain ⟨parts, hread, hparts, rfl⟩ := mapM_readPart_eq_some_iff.1 hkept
  obtain ⟨hempty, rfl⟩ := readVerb_eq_some_iff.1 hends
  have hparts : parts.map Part.text = texts ++ [before] := hparts
  refine ⟨⟨parts, verb⟩, fits_of_readable ?_ hread hparts hnone hempty hsome, ?_, rfl⟩
  · exact List.forall_mem_append.2 ⟨hcloses.1, List.forall_mem_singleton.2 hbefore⟩
  · rw [Written.text, hparts, intercalate_concat_append, ← hlast]

theorem Written.Accepted.closes_verbText {w : Written} (h : w.Accepted) :
    Closes false (verbText w.verb) := by
  cases hv : w.verb with
  | none => rfl
  | some v =>
      obtain ⟨-, hslash, -, ho, hc⟩ := h.verb v hv
      have hbraces : NoBraces (':' :: v) := ⟨by simp [ho], by simp [hc]⟩
      have hslash : '/' ∉ ':' :: v := by simp [hslash]
      exact closes_of_noBraces hbraces hslash

/-- The verb is taken off the last part, which is left whole. -/
theorem Written.Accepted.splitVerb_text {w : Written} (h : w.Accepted) {last : Part}
    (hlast : w.parts.getLast? = some last) :
    splitVerb (last.text ++ verbText w.verb) = (last.text, w.verb) := by
  cases hv : w.verb with
  | some v =>
      obtain ⟨-, -, hcolon, -, hc⟩ := h.verb v hv
      exact splitVerb_append hcolon hc
  | none =>
      rw [verbText, Option.map_none, Option.getD_none, List.append_nil]
      refine splitVerb_of_not_endsInVerb ?_
      cases last with
      | field path pattern => exact not_endsInVerb_field path pattern
      | literal text =>
          rintro ⟨before, verb, htext, -, -⟩
          refine h.last text hlast hv ?_
          rw [show text = before ++ ':' :: verb from htext]
          simp

/-- What is written as a template is read. -/
theorem Written.Accepted.read_text {w : Written} (h : w.Accepted) :
    read w.text = some w.segments := by
  obtain ⟨parts, last, hparts⟩ := (List.eq_nil_or_concat' w.parts).resolve_left h.nonempty
  have hlast : w.parts.getLast? = some last := by rw [hparts, List.getLast?_concat]
  have htext : w.text
      = '/' :: ['/'].intercalate (parts.map Part.text ++ [last.text ++ verbText w.verb]) := by
    rw [Written.text, hparts, List.map_append, List.map_singleton, intercalate_concat_append]
  have hcloses : ∀ text ∈ parts.map Part.text ++ [last.text ++ verbText w.verb],
      Closes false text := by
    rw [List.forall_mem_append, List.forall_mem_singleton, List.forall_mem_map]
    refine ⟨fun p hp => (Part.fits_iff.1 (h.parts p ?_)).2, ?_⟩
    · simp [hparts, hp]
    · exact (Part.fits_iff.1 (h.parts last (List.mem_of_getLast? hlast))).2.append
        h.closes_verbText
  have hread : (parts.map Part.text ++ [last.text]).mapM readPart
      = some (w.parts.map Part.segment) := by
    refine mapM_readPart_eq_some_iff.2 ⟨w.parts, fun p hp => ?_, by simp [hparts], rfl⟩
    exact (Part.fits_iff.1 (h.parts p hp)).1
  have hverb := readVerb_eq_some_iff.2 ⟨fun hv => (h.verb [] hv).1 rfl, rfl⟩
  rw [htext, read_slash, splitParts_eq_some_iff.2 ⟨by simp, hcloses, rfl⟩, Option.bind_some,
    splitLastVerb_concat, h.splitVerb_text hlast, hread, Option.bind_some, hverb]
  rfl

/-- **Exactly the written templates are read**, each to what is kept of it. -/
theorem read_eq_some_iff {cs : List Char} {segments : List PathSegment} :
    read cs = some segments ↔
      ∃ w : Written, w.Accepted ∧ w.text = cs ∧ w.segments = segments := by
  constructor
  · exact exists_of_read
  · rintro ⟨w, hw, rfl, rfl⟩
    exact hw.read_text

/-! ## Braces that are opened again -/

/-- A brace is opened after one is closed, and no slash stands between them. -/
def Reopens (cs : List Char) : Prop :=
  ∃ outside, '/' ∉ outside ∧ '\x7d' :: (outside ++ ['\x7b']) <:+: cs

theorem Reopens.mono {cs cs' : List Char} (h : Reopens cs) (hsub : cs <:+: cs') : Reopens cs' := by
  obtain ⟨outside, hslash, hcs⟩ := h
  exact ⟨outside, hslash, hcs.trans hsub⟩

/-- Text without a slash stands on one side of a slash. -/
theorem within_or_within_of_slash {text before after : List Char} (hne : text ≠ [])
    (hslash : '/' ∉ text) (h : text <:+: before ++ '/' :: after) :
    text <:+: before ∨ text <:+: after := by
  obtain ⟨s, t, h⟩ := h
  rw [List.append_assoc] at h
  rcases List.append_eq_append_iff.1 h with ⟨u, rfl, hu⟩ | ⟨u, rfl, hu⟩
  · rcases List.append_eq_append_iff.1 hu with ⟨v, rfl, hv⟩ | ⟨v, rfl, hv⟩
    · exact Or.inl ⟨s, v, List.append_assoc ..⟩
    · cases v with
      | nil => exact Or.inl ⟨s, [], by simp⟩
      | cons c v =>
          obtain ⟨rfl, -⟩ := List.cons.inj hv
          simp at hslash
  · cases u with
    | nil =>
        cases text with
        | nil => exact absurd rfl hne
        | cons c text =>
            obtain ⟨rfl, -⟩ := List.cons.inj hu
            simp at hslash
    | cons c u =>
        obtain ⟨-, rfl⟩ := List.cons.inj hu
        exact Or.inr ⟨u, t, List.append_assoc ..⟩

theorem reopens_of_slash {before after : List Char} (h : Reopens (before ++ '/' :: after)) :
    Reopens before ∨ Reopens after := by
  obtain ⟨outside, hslash, h⟩ := h
  rcases within_or_within_of_slash (List.cons_ne_nil _ _) (by simp [hslash]) h with h | h
  · exact Or.inl ⟨outside, hslash, h⟩
  · exact Or.inr ⟨outside, hslash, h⟩

theorem not_reopens_nil : ¬Reopens [] := by
  rintro ⟨outside, -, h⟩
  cases List.infix_nil.1 h

theorem exists_reopens_of_intercalate {texts : List (List Char)}
    (h : Reopens (['/'].intercalate texts)) : ∃ text ∈ texts, Reopens text := by
  induction texts with
  | nil => exact absurd h not_reopens_nil
  | cons text texts ih =>
      cases texts with
      | nil =>
          rw [List.intercalate_singleton] at h
          exact ⟨text, List.mem_cons_self .., h⟩
      | cons next texts =>
          rw [List.intercalate_cons_cons, List.append_assoc] at h
          rcases reopens_of_slash h with h | h
          · exact ⟨text, List.mem_cons_self .., h⟩
          · obtain ⟨found, hfound, h⟩ := ih h
            exact ⟨found, List.mem_cons_of_mem _ hfound, h⟩

theorem Reopens.mem {cs : List Char} (h : Reopens cs) : '\x7b' ∈ cs ∧ '\x7d' ∈ cs := by
  obtain ⟨outside, -, hsub⟩ := h
  exact ⟨hsub.subset (by simp), hsub.subset (by simp)⟩

/-- A single field with its verb opens one brace, and closes it after that. -/
theorem not_reopens_field {inner after : List Char} (hin : NoBraces inner)
    (hafter : NoBraces after) : ¬Reopens ('\x7b' :: (inner ++ '\x7d' :: after)) := by
  rintro ⟨outside, -, s, t, h⟩
  cases s with
  | nil => simp at h
  | cons c s =>
      have htail := (List.cons.inj h).2
      have hmem : '\x7b' ∈ inner ++ '\x7d' :: after := by
        rw [← htail]
        simp
      rcases List.mem_append.1 hmem with hmem | hmem
      · exact hin.1 hmem
      · rcases List.mem_cons.1 hmem with hmem | hmem
        · cases hmem
        · exact hafter.1 hmem

theorem Part.Fits.not_reopens {p : Part} (h : p.Fits NoBraces) {after : List Char}
    (hafter : NoBraces after) : ¬Reopens (p.text ++ after) := by
  cases p with
  | literal text =>
      intro hreopens
      rcases List.mem_append.1 hreopens.mem.1 with hmem | hmem
      · exact h.2.2.1 hmem
      · exact hafter.1 hmem
  | field path pattern =>
      have hfield := not_reopens_field h.2.2 hafter
      simpa [Part.text] using hfield

theorem Written.WellFormed.noBraces_verbText {w : Written} (h : w.WellFormed) :
    NoBraces (verbText w.verb) := by
  cases hv : w.verb with
  | none => exact noBraces_nil
  | some v => exact (h.verb v hv).2.2.2.cons (by decide) (by decide)

/-- The text of a well formed template opens one brace between two slashes. -/
theorem Written.WellFormed.not_reopens {w : Written} (h : w.WellFormed) : ¬Reopens w.text := by
  intro hreopens
  obtain ⟨parts, last, hparts⟩ := (List.eq_nil_or_concat' w.parts).resolve_left h.nonempty
  rw [Written.text, hparts, List.map_append, List.map_singleton, intercalate_concat_append]
    at hreopens
  have hreopens : Reopens ([] ++ '/' :: _) := hreopens
  rcases reopens_of_slash hreopens with hreopens | hreopens
  · exact not_reopens_nil hreopens
  · obtain ⟨text, htext, hreopens⟩ := exists_reopens_of_intercalate hreopens
    rcases List.mem_append.1 htext with htext | htext
    · obtain ⟨p, hp, rfl⟩ := List.mem_map.1 htext
      have hnot := (h.parts p (by simp [hparts, hp])).not_reopens noBraces_nil
      rw [List.append_nil] at hnot
      exact hnot hreopens
    · rw [List.mem_singleton.1 htext] at hreopens
      exact (h.parts last (by simp [hparts])).not_reopens h.noBraces_verbText hreopens

theorem text_within_of_mem {w : Written} {p : Part} (h : p ∈ w.parts) : p.text <:+: w.text := by
  obtain ⟨before, after, hparts⟩ := List.append_of_mem h
  have hpart : p.text <:+: ['/'].intercalate (w.parts.map Part.text) := by
    rw [hparts, List.map_append, List.map_cons]
    generalize before.map Part.text = before
    cases before with
    | nil =>
        rw [List.nil_append, intercalate_cons]
        exact (List.prefix_append ..).isInfix
    | cons first before =>
        rw [List.cons_append, intercalate_cons, List.flatMap_append, List.flatMap_cons]
        refine List.IsInfix.trans ?_ (List.suffix_append ..).isInfix
        refine List.IsInfix.trans ?_ (List.suffix_append ..).isInfix
        refine List.IsInfix.trans ?_ (List.prefix_append ..).isInfix
        exact (List.suffix_cons ..).isInfix
  exact hpart.trans ((List.prefix_append ..).isInfix.trans (List.suffix_cons ..).isInfix)

/-- A template that is read is well formed unless it opens a brace again. -/
theorem Written.Accepted.wellFormed {w : Written} (h : w.Accepted) (hnot : ¬Reopens w.text) :
    w.WellFormed := by
  refine ⟨h.nonempty, fun p hp => ?_, h.last, h.verb⟩
  have hfits := h.parts p hp
  cases p with
  | literal text => exact hfits
  | field path pattern =>
      refine ⟨hfits.1, hfits.2.1, ?_⟩
      have hpart : ¬Reopens (Part.field path pattern).text := fun hreopens =>
        hnot (hreopens.mono (text_within_of_mem hp))
      obtain ⟨-, -, hinner⟩ := hfits
      rw [Part.text] at hpart
      generalize fieldText path pattern = inner at hpart hinner
      cases hinner with
      | stays hin => exact hin
      | @leaves inside outside rest _ _ hslash _ =>
          refine absurd ⟨outside, hslash, '\x7b' :: inside, rest ++ ['\x7d'], ?_⟩ hpart
          simp

theorem Written.WellFormed.noBraces_segments {w : Written} (h : w.WellFormed) :
    ∀ s ∈ w.segments, NoBraces s.text.toList := by
  intro s hs
  rcases List.mem_append.1 hs with hs | hs
  · obtain ⟨p, hp, rfl⟩ := List.mem_map.1 hs
    have hfits := h.parts p hp
    cases p with
    | literal text =>
        rw [Part.segment, PathSegment.text, String.toList_ofList]
        exact hfits.2.2
    | field path pattern =>
        rw [Part.segment, PathSegment.text, String.toList_ofList]
        exact ⟨fun h => hfits.2.2.1 (List.mem_append_left _ h),
          fun h => hfits.2.2.2 (List.mem_append_left _ h)⟩
  · rw [Option.mem_toList, Option.map_eq_some_iff] at hs
    obtain ⟨verb, hverb, rfl⟩ := hs
    rw [PathSegment.text, String.toList_ofList]
    exact (h.verb verb hverb).2.2.2

/-! ## Main results -/

/-- **Every well formed template is read** to its literals, the paths of its fields and its verb, in
their order. -/
theorem parse_written {w : Written} (h : w.WellFormed) :
    parse (String.ofList w.text) = some w.segments := by
  rw [parse, String.toList_ofList]
  exact h.accepted.read_text

/-- A version is added to a secret, by a path with slashes and a colon in a pattern and with a colon
in a literal. -/
def addVersion : Written where
  parts :=
    [.literal ['v', '1'], .literal ['a', ':', 'b'],
      .field ['n', 'a', 'm', 'e'] (some ['p', '/', '*', ':', 's', '=', '*'])]
  verb := some ['a', 'd', 'd']

theorem addVersion_read : addVersion.WellFormed ∧
    parse "/v1/a:b/\x7bname=p/*:s=*\x7d:add"
      = some [.literal "v1", .literal "a:b", .variable "name", .verb "add"] :=
  have h : addVersion.WellFormed := by
    refine ⟨by decide, ?_, by simp [addVersion], by simp [addVersion, NoBraces]⟩
    simp [addVersion, Part.Fits, NoBraces, fieldText]
  have htext : String.ofList addVersion.text = "/v1/a:b/\x7bname=p/*:s=*\x7d:add" := by decide
  ⟨h, htext ▸ parse_written h⟩

/-- **What is read is a written template.**  A text is read to the segments of a template whose
fields may leave their braces and enter them again, and any other text is refused.  The template is
well formed, and all texts without a well formed template are refused, exactly when no brace is
opened again in a text that is read; then no brace is left in a segment. -/
theorem parse_exact (t : String) :
    (∀ segments, parse t = some segments ↔
      ∃ w : Written, w.Accepted ∧ w.text = t.toList ∧ w.segments = segments) ∧
    ((∀ segments, parse t = some segments ↔
      ∃ w : Written, w.WellFormed ∧ w.text = t.toList ∧ w.segments = segments) ↔
        (Reopens t.toList → parse t = none)) ∧
    ((Reopens t.toList → parse t = none) → ∀ segments, parse t = some segments →
      ∀ s ∈ segments, NoBraces s.text.toList) := by
  have hwell : (Reopens t.toList → parse t = none) → ∀ segments, parse t = some segments →
      ∃ w : Written, w.WellFormed ∧ w.text = t.toList ∧ w.segments = segments := by
    intro hnone segments h
    obtain ⟨w, hw, htext, hsegments⟩ := read_eq_some_iff.1 h
    refine ⟨w, hw.wellFormed fun hreopens => ?_, htext, hsegments⟩
    rw [hnone (htext ▸ hreopens)] at h
    cases h
  refine ⟨fun segments => read_eq_some_iff, ⟨fun h hreopens => ?_, fun hnone segments => ?_⟩, ?_⟩
  · cases hparse : parse t with
    | none => rfl
    | some segments =>
        obtain ⟨w, hw, htext, -⟩ := (h segments).1 hparse
        exact absurd (htext ▸ hreopens) hw.not_reopens
  · refine ⟨hwell hnone segments, ?_⟩
    rintro ⟨w, hw, htext, rfl⟩
    exact read_eq_some_iff.2 ⟨w, hw.accepted, htext, rfl⟩
  · intro hnone segments h
    obtain ⟨w, hw, -, rfl⟩ := hwell hnone segments h
    exact hw.noBraces_segments

/-- Two fields without a slash between them are read as one whose path has braces, although no well
formed template has that text. -/
theorem adjacentFields_read :
    parse "/\x7ba\x7d\x7bb\x7d" = some [.variable "a\x7d\x7bb"] ∧
      ¬∃ w : Written, w.WellFormed ∧ w.text = "/\x7ba\x7d\x7bb\x7d".toList := by
  refine ⟨by decide, ?_⟩
  rintro ⟨w, hw, htext⟩
  refine hw.not_reopens ?_
  rw [htext]
  exact ⟨[], List.not_mem_nil, ['/', '\x7b', 'a'], ['b', '\x7d'], rfl⟩

end PathTemplate

end ClientGen
