import ClientGen.Toml.Scalar
import Mathlib.Data.List.Basic

/-!
# Strings of TOML are read as they were written

Between double quotes every character stands for itself or is escaped, and the reader undoes the one
step that the writer took for it.  Between apostrophes nothing is escaped, so a form is only taken
for a string that it suits.  In the long forms up to two quotes can stand side by side, also right
before the three that close the string; a run of quotes is therefore read together with its end.

* `Toml.basicRest_basicText`, `Toml.longBasicRest_basicText`, `Toml.literalRest_append`,
  `Toml.longLiteralRest_append` — the four forms.
* `Toml.stringScalar_writeString` — a string is read as it was written.
* `Toml.dottedKey_writeKey` — a key is read as it was written, and is one part.
-/

namespace ClientGen.Toml

/-- The text does not go on with a quote of either kind. -/
def Closed (rest : List Char) : Prop :=
  ∀ c ∈ rest.head?, c ≠ '"' ∧ c ≠ '\''

/-! ## Escapes -/

/-- A control character is written with four digits that are read as that character. -/
theorem charOfCode?_codeDigits {c : Char} (h : isControlCode c = true) :
    ∃ d₁ d₂ d₃ d₄, codeDigits c.toNat = [d₁, d₂, d₃, d₄] ∧
      charOfCode? [d₁, d₂, d₃, d₄] = some c := by
  have hall : ∀ n : Fin 128, (codeDigits n).length = 4 ∧
      charOfCode? (codeDigits n) = some (Char.ofNat n) := by decide +kernel
  have hsmall : c.toNat < 128 := by
    simp only [isControlCode, Bool.or_eq_true, Bool.and_eq_true, decide_eq_true_eq] at h
    omega
  obtain ⟨hlength, hread⟩ := hall ⟨c.toNat, hsmall⟩
  rw [Char.ofNat_toNat] at hread
  obtain ⟨d₁, d₂, d₃, d₄, hdigits⟩ := List.length_eq_four.1 hlength
  exact ⟨d₁, d₂, d₃, d₄, hdigits, hdigits ▸ hread⟩

/-- How a character between double quotes is written: as itself, as a letter after a backslash, or
as its code. -/
theorem basicChar_cases (long : Bool) {c : Char} :
    (basicChar long c = [c] ∧ isControlCode c = false ∧ c ≠ '\\' ∧ (c = '\n' → long = true)) ∨
    (∃ e, basicChar long c = ['\\', e] ∧ escaped? e = some c) ∨
    ∃ d₁ d₂ d₃ d₄, basicChar long c = ['\\', 'u', d₁, d₂, d₃, d₄] ∧
      charOfCode? [d₁, d₂, d₃, d₄] = some c := by
  by_cases hb : c = '\x08'
  · subst hb
    exact Or.inr (Or.inl ⟨'b', rfl, rfl⟩)
  by_cases ht : c = '\t'
  · subst ht
    exact Or.inr (Or.inl ⟨'t', rfl, rfl⟩)
  by_cases hn : c = '\n'
  · subst hn
    cases long with
    | true => exact Or.inl ⟨rfl, rfl, by decide, fun _ => rfl⟩
    | false => exact Or.inr (Or.inl ⟨'n', rfl, rfl⟩)
  by_cases hf : c = '\x0c'
  · subst hf
    exact Or.inr (Or.inl ⟨'f', rfl, rfl⟩)
  by_cases hr : c = '\r'
  · subst hr
    exact Or.inr (Or.inl ⟨'r', rfl, rfl⟩)
  by_cases hbackslash : c = '\\'
  · subst hbackslash
    exact Or.inr (Or.inl ⟨'\\', rfl, rfl⟩)
  rw [basicChar, if_neg hb, if_neg ht, if_neg hn, if_neg hf, if_neg hr, if_neg hbackslash]
  by_cases hcontrol : isControlCode c = true
  · obtain ⟨d₁, d₂, d₃, d₄, hdigits, hread⟩ := charOfCode?_codeDigits hcontrol
    rw [if_pos hcontrol, hdigits]
    exact Or.inr (Or.inr ⟨d₁, d₂, d₃, d₄, rfl, hread⟩)
  · rw [if_neg hcontrol]
    exact Or.inl ⟨rfl, by simpa using hcontrol, hbackslash, fun h => absurd h hn⟩

/-- A letter that is an escape on its own announces no code, and breaks no line. -/
theorem letter_of_escaped? {c e : Char} (h : escaped? e = some c) :
    (e ≠ 'x' ∧ e ≠ 'u' ∧ e ≠ 'U') ∧ isGap e = false ∧ e ≠ '\n' ∧ e ≠ '\r' := by
  unfold escaped? at h
  split at h
  all_goals first | decide | cases h

/-! ## Short strings between double quotes -/

theorem basicRest_plain {c : Char} (hquote : c ≠ '"') (hbackslash : c ≠ '\\')
    (h : isForbidden c = false) (rest : List Char) :
    basicRest (c :: rest) = prepend? c (basicRest rest) := by
  rw [basicRest.eq_7 c rest hquote (fun _ _ _ h _ => hbackslash h)
    (fun _ _ _ _ _ h _ => hbackslash h) (fun _ _ _ _ _ _ _ _ _ h _ => hbackslash h)
    (fun _ _ h _ => hbackslash h)]
  simp [h, hbackslash]

theorem basicRest_escaped {c e : Char} (h : escaped? e = some c) (rest : List Char) :
    basicRest ('\\' :: e :: rest) = prepend? c (basicRest rest) := by
  obtain ⟨⟨hx, hu, hU⟩, -⟩ := letter_of_escaped? h
  rw [basicRest.eq_6 e rest (fun _ _ _ he _ => hx he) (fun _ _ _ _ _ he _ => hu he)
    (fun _ _ _ _ _ _ _ _ _ he _ => hU he), h]
  rfl

/-- The character that was written is read. -/
theorem basicRest_basicChar {c : Char} (hquote : c ≠ '"') (rest : List Char) :
    basicRest (basicChar false c ++ rest) = prepend? c (basicRest rest) := by
  rcases basicChar_cases false (c := c) with
    ⟨hchar, hcontrol, hbackslash, hbreak⟩ | ⟨e, hchar, hread⟩ | ⟨d₁, d₂, d₃, d₄, hchar, hread⟩
  · have hforbidden : isForbidden c = false := by
      simpa [isForbidden, hcontrol] using hbreak
    rw [hchar]
    exact basicRest_plain hquote hbackslash hforbidden rest
  · rw [hchar]
    exact basicRest_escaped hread rest
  · rw [hchar]
    simp [basicRest, hread]

/-- **A short string is read as it was written.** -/
theorem basicRest_basicText (run : Nat) (cs rest : List Char) :
    basicRest (basicText false run cs ++ '"' :: rest) = some (cs, rest) := by
  induction cs generalizing run with
  | nil => rfl
  | cons c cs ih =>
      rw [basicText]
      by_cases hquote : c = '"'
      · subst hquote
        have hescape : ¬run + 1 ≤ if false = true then 2 else 0 := by simp
        rw [if_pos rfl, if_neg hescape, List.cons_append, List.cons_append,
          basicRest_escaped (c := '"') rfl, ih]
        rfl
      · rw [if_neg hquote, List.append_assoc, basicRest_basicChar hquote, ih]
        rfl

/-! ## Long strings between double quotes -/

-- the equations of the reader are costly, so they are made once, before the proofs that share them
attribute [simp] longBasicRest

theorem longBasicRest_plain {c : Char} (hquote : c ≠ '"') (hbackslash : c ≠ '\\')
    (h : isControlCode c = false) (rest : List Char) :
    longBasicRest false (c :: rest) = prepend? c (longBasicRest false rest) := by
  have hreturn : c ≠ '\r' := by
    rintro rfl
    cases h
  rw [longBasicRest.eq_14 false c rest (fun _ h _ => hquote h) (fun _ h _ => hquote h)
    (fun _ h _ => hquote h) (fun _ _ _ h _ => hbackslash h) (fun _ _ _ _ _ h _ => hbackslash h)
    (fun _ _ _ _ _ _ _ _ _ h _ => hbackslash h) (fun _ _ h _ => hbackslash h)
    (fun _ h _ => hreturn h) nofun nofun nofun nofun]
  simp [h, hbackslash]

/-- A quote that two more do not follow is read as it stands. -/
theorem longBasicRest_quote {rest : List Char} (h : ¬['"', '"'] <+: rest) :
    longBasicRest false ('"' :: rest) = prepend? '"' (longBasicRest false rest) := by
  have hno : ∀ more, rest ≠ '"' :: '"' :: more := by
    rintro more rfl
    exact h ⟨more, rfl⟩
  rw [longBasicRest.eq_14 false '"' rest (fun _ _ h => hno _ h) (fun _ _ h => hno _ h)
    (fun _ _ h => hno _ h) nofun nofun nofun nofun nofun nofun nofun nofun nofun]
  rfl

theorem longBasicRest_escaped {c e : Char} (h : escaped? e = some c) (rest : List Char) :
    longBasicRest false ('\\' :: e :: rest) = prepend? c (longBasicRest false rest) := by
  obtain ⟨⟨hx, hu, hU⟩, hgap, hbreak, hreturn⟩ := letter_of_escaped? h
  have hline : endsLine (e :: rest) = false := by
    have hskip : skipGap (e :: rest) = e :: rest := by
      rw [skipGap, List.dropWhile_cons, hgap]
      rfl
    unfold endsLine
    rw [hskip]
    split
    · rename_i heq
      exact absurd (List.cons.inj heq).1 hbreak
    · rename_i heq
      exact absurd (List.cons.inj heq).1 hreturn
    · rfl
  rw [longBasicRest.eq_12 false e rest (fun _ _ _ he _ => hx he) (fun _ _ _ _ _ he _ => hu he)
    (fun _ _ _ _ _ _ _ _ _ he _ => hU he), hline, h]
  rfl

theorem longBasicRest_basicChar {c : Char} (hquote : c ≠ '"') (rest : List Char) :
    longBasicRest false (basicChar true c ++ rest) = prepend? c (longBasicRest false rest) := by
  rcases basicChar_cases true (c := c) with
    ⟨hchar, hcontrol, hbackslash, -⟩ | ⟨e, hchar, hread⟩ | ⟨d₁, d₂, d₃, d₄, hchar, hread⟩
  · rw [hchar]
    exact longBasicRest_plain hquote hbackslash hcontrol rest
  · rw [hchar]
    exact longBasicRest_escaped hread rest
  · rw [hchar]
    simp [hread]

/-- What is written between double quotes starts with a quote only for one that is not escaped, and
never with half a line break. -/
theorem exists_basicText_cons (long : Bool) (run : Nat) (c : Char) (cs : List Char) :
    ∃ d more, basicText long run (c :: cs) = d :: more ∧
      (d = '"' → c = '"' ∧ run + 1 ≤ if long then 2 else 0) ∧ (d = '\n' → c = '\n') ∧
        d ≠ '\r' := by
  rw [basicText]
  by_cases hquote : c = '"'
  · subst hquote
    rw [if_pos rfl]
    by_cases hrun : run + 1 ≤ if long then 2 else 0
    · rw [if_pos hrun]
      exact ⟨_, _, rfl, fun _ => ⟨rfl, hrun⟩, nofun, by decide⟩
    · rw [if_neg hrun]
      exact ⟨_, _, rfl, nofun, nofun, by decide⟩
  · rw [if_neg hquote]
    rcases basicChar_cases long (c := c) with ⟨hchar, hcontrol, -⟩ | ⟨e, hchar, -⟩ |
      ⟨_, _, _, _, hchar, -⟩
    · rw [hchar]
      refine ⟨c, _, rfl, fun h => absurd h hquote, id, ?_⟩
      rintro rfl
      cases hcontrol
    · rw [hchar]
      exact ⟨_, _, rfl, nofun, nofun, by decide⟩
    · rw [hchar]
      exact ⟨_, _, rfl, nofun, nofun, by decide⟩

/-- Up to two quotes before the three that close the string belong to it. -/
theorem longBasicRest_close {rest : List Char} (h : Closed rest) :
    longBasicRest false ('"' :: '"' :: '"' :: rest) = some ([], rest) ∧
      longBasicRest false ('"' :: '"' :: '"' :: '"' :: rest) = some (['"'], rest) ∧
      longBasicRest false ('"' :: '"' :: '"' :: '"' :: '"' :: rest) = some (['"', '"'], rest) := by
  have hno : ∀ more, rest ≠ '"' :: more := by
    rintro more rfl
    exact (h '"' rfl).1 rfl
  exact ⟨longBasicRest.eq_8 false rest (fun _ h => hno _ h) (fun _ h => hno _ h),
    longBasicRest.eq_7 false rest (fun _ h => hno _ h), longBasicRest.eq_6 false rest⟩

/-- After a quote that is not escaped two more follow only at the end of the string. -/
theorem eq_of_quotes_prefix {run : Nat} {cs rest : List Char}
    (h : ['"', '"'] <+: basicText true (run + 1) cs ++ '"' :: '"' :: '"' :: rest) :
    cs = [] ∨ cs = ['"'] ∧ basicText true (run + 1) cs = ['"'] := by
  cases cs with
  | nil => exact Or.inl rfl
  | cons d cs =>
      obtain ⟨e, more, htext, hquote, -⟩ := exists_basicText_cons true (run + 1) d cs
      rw [htext, List.cons_append, List.cons_prefix_cons] at h
      obtain ⟨rfl, hrun⟩ := hquote h.1.symm
      have hfirst : basicText true (run + 1) ('"' :: cs) = '"' :: basicText true (run + 2) cs := by
        rw [basicText, if_pos rfl, if_pos hrun]
      rw [hfirst, List.cons.injEq] at htext
      obtain ⟨-, rfl⟩ := htext
      cases cs with
      | nil => exact Or.inr ⟨rfl, hfirst⟩
      | cons f cs =>
          obtain ⟨e, more, htext, hquote, -⟩ := exists_basicText_cons true (run + 2) f cs
          rw [htext, List.cons_append, List.cons_prefix_cons] at h
          have hthree := (hquote h.2.1.symm).2
          rw [if_pos rfl] at hthree
          omega

/-- **A long string is read as it was written**, after some quotes that are not escaped. -/
theorem longBasicRest_basicText {rest : List Char} (h : Closed rest) (run : Nat)
    (cs : List Char) :
    longBasicRest false (basicText true run cs ++ '"' :: '"' :: '"' :: rest) = some (cs, rest) := by
  obtain ⟨hnone, hone, htwo⟩ := longBasicRest_close h
  induction cs generalizing run with
  | nil => exact hnone
  | cons c cs ih =>
      by_cases hquote : c = '"'
      · subst hquote
        rw [basicText, if_pos rfl]
        by_cases hrun : run + 1 ≤ if true = true then 2 else 0
        · rw [if_pos hrun, List.cons_append]
          by_cases hend : ['"', '"'] <+: basicText true (run + 1) cs ++ '"' :: '"' :: '"' :: rest
          · -- the quotes at the end of the string are read with those that close it
            rcases eq_of_quotes_prefix hend with rfl | ⟨rfl, htext⟩
            · exact hone
            · rw [htext]
              exact htwo
          · rw [longBasicRest_quote hend, ih]
            rfl
        · rw [if_neg hrun, List.cons_append, List.cons_append,
            longBasicRest_escaped (c := '"') rfl, ih]
          rfl
      · rw [basicText, if_neg hquote, List.append_assoc, longBasicRest_basicChar hquote, ih]
        rfl

/-! ## Strings between apostrophes -/

theorem suits_literal_iff {cs : List Char} :
    Form.literal.suits cs = true ↔
      ∀ c ∈ cs, isControlCode c = false ∧ c ≠ '\'' ∧ c ≠ '\n' := by
  simp only [Form.suits, Bool.and_eq_true, Bool.not_eq_true', List.any_eq_false,
    List.contains_eq_mem, decide_eq_false_iff_not, Bool.not_eq_true]
  constructor
  · rintro ⟨⟨hcontrol, hquote⟩, hbreak⟩ c hc
    exact ⟨hcontrol c hc, fun h => hquote (h ▸ hc), fun h => hbreak (h ▸ hc)⟩
  · exact fun h => ⟨⟨fun c hc => (h c hc).1, fun hc => (h _ hc).2.1 rfl⟩,
      fun hc => (h _ hc).2.2 rfl⟩

/-- **A short string between apostrophes is read as it stands.** -/
theorem literalRest_append {cs : List Char} (h : Form.literal.suits cs = true)
    (rest : List Char) : literalRest (cs ++ '\'' :: rest) = some (cs, rest) := by
  rw [suits_literal_iff] at h
  induction cs with
  | nil => rfl
  | cons c cs ih =>
      obtain ⟨hcontrol, hquote, hbreak⟩ := h c (List.mem_cons_self ..)
      have hforbidden : isForbidden c = false := by
        simpa [isForbidden, hcontrol] using hbreak
      rw [List.cons_append, literalRest.eq_3 c _ hquote, hforbidden,
        ih fun d hd => h d (List.mem_cons_of_mem _ hd)]
      rfl

theorem le_longestRunFrom (c : Char) (n : Nat) (cs : List Char) : n ≤ longestRunFrom c n cs := by
  induction cs generalizing n with
  | nil => exact Nat.le_refl n
  | cons d cs ih =>
      rw [longestRunFrom]
      split
      · exact Nat.le_of_succ_le (ih (n + 1))
      · exact Nat.le_max_left ..

/-- A longer run before the text makes no run in it shorter. -/
theorem longestRunFrom_mono (c : Char) {m n : Nat} (h : m ≤ n) (cs : List Char) :
    longestRunFrom c m cs ≤ longestRunFrom c n cs := by
  induction cs generalizing m n with
  | nil => exact h
  | cons d cs ih =>
      rw [longestRunFrom, longestRunFrom]
      split
      · exact ih (Nat.succ_le_succ h)
      · omega

theorem longestRun_tail_le (c d : Char) (cs : List Char) :
    longestRun c cs ≤ longestRun c (d :: cs) := by
  rw [longestRun, longestRun, longestRunFrom]
  split
  · exact longestRunFrom_mono c (Nat.zero_le 1) cs
  · exact Nat.le_max_right ..

theorem three_le_longestRun (c : Char) (cs : List Char) : 3 ≤ longestRun c (c :: c :: c :: cs) := by
  simp only [longestRun, longestRunFrom, if_true]
  exact le_longestRunFrom c 3 cs

theorem suits_longLiteral_iff {cs : List Char} :
    Form.longLiteral.suits cs = true ↔
      (∀ c ∈ cs, isControlCode c = false) ∧ longestRun '\'' cs ≤ 2 := by
  simp only [Form.suits, Bool.and_eq_true, Bool.not_eq_true', List.any_eq_false,
    decide_eq_true_eq, Bool.not_eq_true]

/-- Up to two apostrophes before the three that close the string belong to it. -/
theorem longLiteralRest_close {rest : List Char} (h : Closed rest) :
    longLiteralRest ('\'' :: '\'' :: '\'' :: rest) = some ([], rest) ∧
      longLiteralRest ('\'' :: '\'' :: '\'' :: '\'' :: rest) = some (['\''], rest) ∧
      longLiteralRest ('\'' :: '\'' :: '\'' :: '\'' :: '\'' :: rest)
        = some (['\'', '\''], rest) := by
  have hno : ∀ more, rest ≠ '\'' :: more := by
    rintro more rfl
    exact (h '\'' rfl).2 rfl
  exact ⟨longLiteralRest.eq_4 rest (fun _ h => hno _ h) (fun _ h => hno _ h),
    longLiteralRest.eq_3 rest (fun _ h => hno _ h), longLiteralRest.eq_2 rest⟩

/-- An apostrophe that two more do not follow is read as it stands. -/
theorem longLiteralRest_quote {rest : List Char} (h : ¬['\'', '\''] <+: rest) :
    longLiteralRest ('\'' :: rest) = prepend? '\'' (longLiteralRest rest) := by
  have hno : ∀ more, rest ≠ '\'' :: '\'' :: more := by
    rintro more rfl
    exact h ⟨more, rfl⟩
  rw [longLiteralRest.eq_6 '\'' rest (fun _ _ h => hno _ h) (fun _ _ h => hno _ h)
    (fun _ _ h => hno _ h) nofun]
  rfl

theorem longLiteralRest_plain {c : Char} (hquote : c ≠ '\'') (h : isControlCode c = false)
    (rest : List Char) : longLiteralRest (c :: rest) = prepend? c (longLiteralRest rest) := by
  have hreturn : c ≠ '\r' := by
    rintro rfl
    cases h
  rw [longLiteralRest.eq_6 c rest (fun _ h _ => hquote h) (fun _ h _ => hquote h)
    (fun _ h _ => hquote h) (fun _ h _ => hreturn h), h]
  rfl

/-- **A long string between apostrophes is read as it stands.** -/
theorem longLiteralRest_append {cs rest : List Char} (hsuits : Form.longLiteral.suits cs = true)
    (h : Closed rest) :
    longLiteralRest (cs ++ '\'' :: '\'' :: '\'' :: rest) = some (cs, rest) := by
  obtain ⟨hnone, hone, htwo⟩ := longLiteralRest_close h
  obtain ⟨hcontrol, hrun⟩ := suits_longLiteral_iff.1 hsuits
  clear hsuits
  induction cs with
  | nil => exact hnone
  | cons c cs ih =>
      have htail := ih (fun d hd => hcontrol d (List.mem_cons_of_mem _ hd))
        (Nat.le_trans (longestRun_tail_le ..) hrun)
      by_cases hquote : c = '\''
      · subst hquote
        rw [List.cons_append]
        by_cases hend : ['\'', '\''] <+: cs ++ '\'' :: '\'' :: '\'' :: rest
        · -- the quotes at the end of the string are read with those that close it
          match cs, hend with
          | [], _ => exact hone
          | [d], hend =>
              obtain rfl : '\'' = d := (List.cons_prefix_cons.1 hend).1
              exact htwo
          | d :: e :: cs, hend =>
              rw [List.cons_append, List.cons_append, List.cons_prefix_cons,
                List.cons_prefix_cons] at hend
              obtain ⟨rfl, rfl, -⟩ := hend
              have hthree := three_le_longestRun '\'' cs
              omega
        · rw [longLiteralRest_quote hend, htail]
          rfl
      · rw [List.cons_append,
          longLiteralRest_plain hquote (hcontrol c (List.mem_cons_self ..)), htail]
        rfl

/-! ## Strings -/

/-- The line break that opens a long string is dropped, and no other one is. -/
theorem dropOpening_opening {cs text : List Char}
    (h : '\n' ∉ cs → text.head? ≠ some '\n' ∧ text.head? ≠ some '\r') :
    dropOpening (opening cs ++ text) = text := by
  unfold opening
  split
  · rfl
  · rename_i hbreak
    obtain ⟨hfeed, hreturn⟩ := h (by simpa using hbreak)
    cases text with
    | nil => rfl
    | cons c text =>
        exact dropOpening.eq_3 _ (fun _ he => hfeed (by rw [List.nil_append] at he; rw [he]; rfl))
          (fun _ he => hreturn (by rw [List.nil_append] at he; rw [he]; rfl))

/-- One double quote opens a short string. -/
theorem stringScalar_quote {rest : List Char} (h : ¬['"', '"'] <+: rest) :
    stringScalar ('"' :: rest)
      = (basicRest rest).map fun (text, rest) => (String.ofList text, rest) := by
  unfold stringScalar
  split
  · rename_i more heq
    obtain ⟨-, rfl⟩ := List.cons.inj heq
    exact absurd ⟨more, rfl⟩ h
  · rename_i heq
    rw [(List.cons.inj heq).2]
  · rename_i heq
    exact absurd (List.cons.inj heq).1 (by decide)
  · rename_i heq
    exact absurd (List.cons.inj heq).1 (by decide)
  · rename_i hno _ _
    exact absurd rfl (hno rest)

/-- One apostrophe opens a short string. -/
theorem stringScalar_apostrophe {rest : List Char} (h : ¬['\'', '\''] <+: rest) :
    stringScalar ('\'' :: rest)
      = (literalRest rest).map fun (text, rest) => (String.ofList text, rest) := by
  unfold stringScalar
  split
  · rename_i heq
    exact absurd (List.cons.inj heq).1 (by decide)
  · rename_i heq
    exact absurd (List.cons.inj heq).1 (by decide)
  · rename_i more heq
    obtain ⟨-, rfl⟩ := List.cons.inj heq
    exact absurd ⟨more, rfl⟩ h
  · rename_i heq
    rw [(List.cons.inj heq).2]
  · rename_i hno
    exact absurd rfl (hno rest)

variable {cs rest : List Char}

theorem stringScalar_basic (h : Closed rest) :
    stringScalar (Form.basic.write cs ++ rest) = some (String.ofList cs, rest) := by
  have hshort : ¬['"', '"'] <+: basicText false 0 cs ++ '"' :: rest := by
    cases cs with
    | nil =>
        rintro ⟨more, hmore⟩
        have hrest : rest = '"' :: more := (List.cons.inj hmore).2.symm
        exact (h '"' (hrest ▸ rfl)).1 rfl
    | cons c cs =>
        obtain ⟨d, more, htext, hquote, -⟩ := exists_basicText_cons false 0 c cs
        rw [htext, List.cons_append, List.cons_prefix_cons]
        rintro ⟨rfl, -⟩
        have hrun := (hquote rfl).2
        simp at hrun
  have hwritten : Form.basic.write cs ++ rest = '"' :: (basicText false 0 cs ++ '"' :: rest) := by
    simp [Form.write]
  rw [hwritten, stringScalar_quote hshort, basicRest_basicText]
  rfl

theorem stringScalar_literal (hsuits : Form.literal.suits cs = true) (h : Closed rest) :
    stringScalar (Form.literal.write cs ++ rest) = some (String.ofList cs, rest) := by
  have hshort : ¬['\'', '\''] <+: cs ++ '\'' :: rest := by
    cases cs with
    | nil =>
        rintro ⟨more, hmore⟩
        have hrest : rest = '\'' :: more := (List.cons.inj hmore).2.symm
        exact (h '\'' (hrest ▸ rfl)).2 rfl
    | cons c cs =>
        rw [List.cons_append, List.cons_prefix_cons]
        rintro ⟨hquote, -⟩
        exact (suits_literal_iff.1 hsuits c (List.mem_cons_self ..)).2.1 hquote.symm
  have hwritten : Form.literal.write cs ++ rest = '\'' :: (cs ++ '\'' :: rest) := by
    simp [Form.write]
  rw [hwritten, stringScalar_apostrophe hshort, literalRest_append hsuits]
  rfl

theorem stringScalar_longBasic (h : Closed rest) :
    stringScalar (Form.longBasic.write cs ++ rest) = some (String.ofList cs, rest) := by
  have hopening : '\n' ∉ cs →
      (basicText true 0 cs ++ '"' :: '"' :: '"' :: rest).head? ≠ some '\n' ∧
        (basicText true 0 cs ++ '"' :: '"' :: '"' :: rest).head? ≠ some '\r' := by
    intro hbreak
    cases cs with
    | nil => exact ⟨nofun, nofun⟩
    | cons c cs =>
        obtain ⟨d, more, htext, -, hfeed, hreturn⟩ := exists_basicText_cons true 0 c cs
        have hc : d ≠ '\n' := fun hd => hbreak (hfeed hd ▸ List.mem_cons_self ..)
        simp [htext, hc, hreturn]
  have hwritten : Form.longBasic.write cs ++ rest = '"' :: '"' :: '"' ::
      (opening cs ++ (basicText true 0 cs ++ '"' :: '"' :: '"' :: rest)) := by
    simp [Form.write]
  rw [hwritten]
  change Option.map _ (longBasicRest false (dropOpening _)) = _
  rw [dropOpening_opening hopening, longBasicRest_basicText h]
  rfl

theorem stringScalar_longLiteral (hsuits : Form.longLiteral.suits cs = true) (h : Closed rest) :
    stringScalar (Form.longLiteral.write cs ++ rest) = some (String.ofList cs, rest) := by
  have hopening : '\n' ∉ cs →
      (cs ++ '\'' :: '\'' :: '\'' :: rest).head? ≠ some '\n' ∧
        (cs ++ '\'' :: '\'' :: '\'' :: rest).head? ≠ some '\r' := by
    intro hbreak
    cases cs with
    | nil => exact ⟨nofun, nofun⟩
    | cons c cs =>
        have hcontrol := (suits_longLiteral_iff.1 hsuits).1 c (List.mem_cons_self ..)
        refine ⟨fun hc => hbreak ?_, fun hc => ?_⟩
        · rw [← Option.some.inj hc]
          exact List.mem_cons_self ..
        · rw [Option.some.inj hc] at hcontrol
          cases hcontrol
  have hwritten : Form.longLiteral.write cs ++ rest = '\'' :: '\'' :: '\'' ::
      (opening cs ++ (cs ++ '\'' :: '\'' :: '\'' :: rest)) := by
    simp [Form.write]
  rw [hwritten]
  change Option.map _ (longLiteralRest (dropOpening _)) = _
  rw [dropOpening_opening hopening, longLiteralRest_append hsuits h]
  rfl

/-- The form of a string suits it, or has escapes. -/
theorem suits_ofString (cs : List Char) :
    (Form.ofString cs).suits cs = true ∨ Form.ofString cs = .basic ∨
      Form.ofString cs = .longBasic := by
  unfold Form.ofString
  split
  · rename_i form hform
    exact Or.inl (List.find?_some hform)
  · split
    · exact Or.inr (Or.inr rfl)
    · exact Or.inr (Or.inl rfl)

/-- **A string is read as it was written.** -/
theorem stringScalar_writeString (s : String) (h : Closed rest) :
    stringScalar (writeString s ++ rest) = some (s, rest) := by
  have hform := suits_ofString s.toList
  rw [writeString]
  cases hchosen : Form.ofString s.toList with
  | basic => rw [stringScalar_basic h, String.ofList_toList]
  | literal =>
      rw [hchosen] at hform
      rw [stringScalar_literal (hform.resolve_right (by decide)) h, String.ofList_toList]
  | longBasic => rw [stringScalar_longBasic h, String.ofList_toList]
  | longLiteral =>
      rw [hchosen] at hform
      rw [stringScalar_longLiteral (hform.resolve_right (by decide)) h, String.ofList_toList]

/-- A string starts with a quote. -/
theorem exists_writeString (s : String) :
    ∃ c more, writeString s = c :: more ∧ (c = '"' ∨ c = '\'') := by
  rw [writeString]
  cases Form.ofString s.toList with
  | basic => exact ⟨_, _, rfl, Or.inl rfl⟩
  | literal => exact ⟨_, _, rfl, Or.inr rfl⟩
  | longBasic => exact ⟨_, _, rfl, Or.inl rfl⟩
  | longLiteral => exact ⟨_, _, rfl, Or.inr rfl⟩

/-! ## Keys -/

/-- A key is written bare, or in a short form, between apostrophes only if that suits it. -/
theorem writeKey_cases (key : String) :
    (∃ c cs, key.toList = c :: cs ∧ isBareChar c = true ∧ cs.all isBareChar = true ∧
      writeKey key = c :: cs) ∨
    writeKey key = '"' :: (basicText false 0 key.toList ++ ['"']) ∨
    Form.literal.suits key.toList = true ∧ writeKey key = '\'' :: (key.toList ++ ['\'']) := by
  rw [writeKey]
  split
  · rename_i hbare
    simp only [Bool.and_eq_true, Bool.not_eq_true', String.isEmpty_eq_false_iff] at hbare
    obtain ⟨hempty, hbare⟩ := hbare
    obtain ⟨c, cs, hchars⟩ :=
      List.exists_cons_of_ne_nil (mt String.toList_eq_nil_iff.1 hempty)
    rw [hchars, List.all_cons, Bool.and_eq_true] at hbare
    exact Or.inl ⟨c, cs, hchars, hbare.1, hbare.2, hchars⟩
  · right
    unfold Form.ofKey
    split
    · rename_i form hform
      have hsuits := List.find?_some hform
      have hmem := List.mem_of_find?_eq_some hform
      simp only [List.mem_cons, List.not_mem_nil, or_false] at hmem
      rcases hmem with rfl | rfl
      · exact Or.inl rfl
      · exact Or.inr ⟨hsuits, rfl⟩
    · exact Or.inl rfl

/-- The text does not go on with a character that can stand in a bare key. -/
def EndsKey (rest : List Char) : Prop :=
  ∀ c ∈ rest.head?, isBareChar c = false

theorem takeWhile_bare (hbare : cs.all isBareChar = true) (h : EndsKey rest) :
    (cs ++ rest).takeWhile isBareChar = cs ∧ (cs ++ rest).dropWhile isBareChar = rest := by
  have hall : ∀ c ∈ cs, isBareChar c = true := List.all_eq_true.1 hbare
  rw [List.takeWhile_append_of_pos hall, List.dropWhile_append_of_pos hall]
  cases rest with
  | nil => simp
  | cons c rest =>
      have hc := h c rfl
      simp [hc]

/-- A key without dots is read as it was written. -/
theorem simpleKey_writeKey (key : String) (h : EndsKey rest) :
    simpleKey (writeKey key ++ rest) = some (key, rest) := by
  rcases writeKey_cases key with ⟨c, cs, hchars, hfirst, hbare, hwritten⟩ | hwritten |
    ⟨hsuits, hwritten⟩
  · obtain ⟨htake, hdrop⟩ := takeWhile_bare hbare h
    have hquote : c ≠ '"' ∧ c ≠ '\'' := by
      constructor <;> rintro rfl <;> exact absurd hfirst (by decide)
    rw [hwritten, List.cons_append, simpleKey.eq_3 c _ hquote.1 hquote.2, if_pos hfirst, htake,
      hdrop, ← hchars, String.ofList_toList]
  · rw [hwritten, List.cons_append, List.append_assoc, List.singleton_append, simpleKey,
      basicRest_basicText, Option.map_some]
    simp only [String.ofList_toList]
  · rw [hwritten, List.cons_append, List.append_assoc, List.singleton_append, simpleKey,
      literalRest_append hsuits, Option.map_some]
    simp only [String.ofList_toList]

/-- The characters that do something else at the start of a line than to start a key. -/
def lineMarks : List Char :=
  [' ', '\t', '\n', '\r', '#', '[']

/-- A key starts like a key. -/
theorem exists_writeKey (key : String) : ∃ c more, writeKey key = c :: more ∧ c ∉ lineMarks := by
  rcases writeKey_cases key with ⟨c, cs, -, hfirst, -, hwritten⟩ | hwritten | ⟨-, hwritten⟩
  · have hmarks : ∀ d ∈ lineMarks, isBareChar d = false := by
      simp only [lineMarks, List.forall_mem_cons]
      exact ⟨rfl, rfl, rfl, rfl, rfl, rfl, nofun⟩
    refine ⟨c, cs, hwritten, fun hc => ?_⟩
    rw [hmarks c hc] at hfirst
    cases hfirst
  · exact ⟨_, _, hwritten, by decide⟩
  · exact ⟨_, _, hwritten, by decide⟩

/-- No space is passed over where there is none. -/
theorem skipGap_cons {c : Char} (h : isGap c = false) (cs : List Char) :
    skipGap (c :: cs) = c :: cs := by
  rw [skipGap, List.dropWhile_cons, h]
  rfl

theorem isGap_of_notMem {c : Char} (h : c ∉ lineMarks) : isGap c = false := by
  simp only [lineMarks, List.mem_cons, not_or] at h
  simp [isGap, h.1, h.2.1]

/-- **A key is read as it was written**, and as a key of one part. -/
theorem dottedKey_writeKey (key : String) (h : EndsKey rest)
    (hdot : (skipGap rest).head? ≠ some '.') :
    dottedKey (writeKey key ++ rest) = some ([key], skipGap rest) := by
  have hread := simpleKey_writeKey key h
  obtain ⟨c, more, hwritten, hfirst⟩ := exists_writeKey key
  have hskip : skipGap (writeKey key ++ rest) = writeKey key ++ rest := by
    rw [hwritten, List.cons_append, skipGap_cons (isGap_of_notMem hfirst)]
  rw [dottedKey, dottedKeyWithin, hskip, hread]
  simp only
  split
  · rename_i heq
    exact absurd (congrArg List.head? heq) hdot
  · rfl

end ClientGen.Toml
