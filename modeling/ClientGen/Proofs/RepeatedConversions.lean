import ClientGen.Proofs.SnakeNames

/-!
# Conversions done twice

A name that has been converted is often converted again.  Without separators the second conversion
finds other words than the first: `a_b2_C` is three words, its Pascal case `AB2C` only two.  On ASCII
it changes nothing all the same, for whatever words it finds begin with capitals, the first apart,
and capitals stay as they are.

* `Naming.words_snake` — the words of a snake case are those of the symbol in lower case.
* `Naming.exists_words_cons` — the words of a text without separators: all but the first begin with
  a capital.
* `Naming.pascal_of_isAlphanum`, `Naming.camel_of_isAlphanum` — so Pascal case changes the first
  character of such a text only, and camel case nothing if the text begins with a small letter or a
  digit.
* `Naming.conversions_idempotent` — the three conversions are idempotent.
-/

namespace ClientGen

open Text

namespace Naming

/-- The text is made of ASCII characters. -/
def IsAscii (cs : List Char) : Prop :=
  ∀ c ∈ cs, c.toNat < 128

-- stated by hand: a search for an instance may find one that goes through all characters
instance (cs : List Char) : Decidable (IsAscii cs) :=
  decidable_of_iff (cs.all (fun c => decide (c.toNat < 128)) = true) (by simp [IsAscii])

variable {symbol : List Char}

theorem isAlphanum_of_mem_words (h : IsAscii symbol) {w : Word} (hw : w ∈ words symbol) :
    ∀ c ∈ w, c.isAlphanum = true := by
  intro c hc
  rw [← (followsAscii (h c (mem_of_mem_words hw hc))).isAlphanumeric,
    isAlphanumeric_of_mem_words hw hc]

/-! ## Lower case words -/

theorem lowercase_of_isAlphanum {w : Word} (h : ∀ c ∈ w, c.isAlphanum = true) :
    lowercase w = w.map Char.toLower :=
  lowercase_of_ascii fun c hc => toNat_lt_of_isAlphanum (h c hc)

theorem isPlain_of_mem_lowercase {w : Word} (h : ∀ c ∈ w, c.isAlphanum = true) :
    ∀ x ∈ lowercase w, IsPlain x := by
  rw [lowercase_of_isAlphanum h]
  exact List.forall_mem_map.2 fun c hc => (hasCases (h c hc)).isPlain_toLower

/-- **Snake case keeps the words.**  In the snake case of a symbol the splitter finds the words of
the symbol in lower case. -/
theorem words_snake (h : IsAscii symbol) : words (snake symbol) = (words symbol).map lowercase := by
  refine words_intercalate (List.forall_mem_map.2 fun w hw => ?_)
  have halphanum := isAlphanum_of_mem_words h hw
  refine isWord_of_isPlain ?_ (isPlain_of_mem_lowercase halphanum)
  rw [lowercase_of_isAlphanum halphanum, ne_eq, List.map_eq_nil_iff]
  exact ne_nil_of_mem_words hw

theorem snake_snake (h : IsAscii symbol) : snake (snake symbol) = snake symbol := by
  have htwice : ∀ w ∈ words symbol, (lowercase ∘ lowercase) w = lowercase w := fun w hw =>
    lowercase_of_isPlain (isPlain_of_mem_lowercase (isAlphanum_of_mem_words h hw))
  rw [snake, words_snake h, List.map_map, List.map_congr_left htwice, snake]

/-! ## Words without separators -/

/-- The word begins with a capital. -/
def BeginsCapital : Word → Prop
  | [] => False
  | c :: _ => isUpper c = true

/-- Where there is no separator a word ends at a capital, with which the next one begins. -/
theorem exists_wordsAfter {current cs : List Char} (hcurrent : current ≠ [])
    (hcs : ∀ c ∈ cs, isAlphanumeric c = true) :
    ∃ rest ws, wordsAfter current cs = (current.reverse ++ rest) :: ws ∧
      ∀ w ∈ ws, BeginsCapital w := by
  induction cs generalizing current with
  | nil => exact ⟨[], [], by simp [wordsAfter, finish, hcurrent], List.forall_mem_nil _⟩
  | cons c cs ih =>
      obtain ⟨hc, hcs⟩ := List.forall_mem_cons.1 hcs
      obtain ⟨previous, before, rfl⟩ := List.exists_cons_of_ne_nil hcurrent
      rw [wordsAfter_cons_inside hc]
      by_cases hstarts : startsWord previous c cs.head? = true
      · obtain ⟨rest, ws, hwords, hws⟩ := @ih [c] (List.cons_ne_nil _ _) hcs
        refine ⟨[], (c :: rest) :: ws, ?_,
          List.forall_mem_cons.2 ⟨isUpper_of_startsWord hstarts, hws⟩⟩
        rw [if_pos hstarts, hwords, List.append_nil]
        rfl
      · obtain ⟨rest, ws, hwords, hws⟩ :=
          @ih (c :: previous :: before) (List.cons_ne_nil _ _) hcs
        refine ⟨c :: rest, ws, ?_, hws⟩
        rw [if_neg hstarts, hwords, List.reverse_cons, List.append_assoc, List.singleton_append]

/-- A word of small letters and digits goes on up to the next capital. -/
theorem isPlain_of_wordsAfter {current cs : List Char} {w : Word} {ws : List Word}
    (hcurrent : current ≠ []) (hplain : ∀ x ∈ current, IsPlain x)
    (hcs : ∀ c ∈ cs, c.isAlphanum = true) (h : wordsAfter current cs = w :: ws) :
    ∀ x ∈ w, IsPlain x := by
  induction cs generalizing current with
  | nil =>
      simp only [wordsAfter, finish, List.isEmpty_iff, hcurrent, if_false, List.cons.injEq] at h
      rw [← h.1]
      exact fun x hx => hplain x (List.mem_reverse.1 hx)
  | cons c cs ih =>
      obtain ⟨hc, hcs⟩ := List.forall_mem_cons.1 hcs
      rcases isPlain_or_isUpper hc with hsmall | hupper
      · rw [wordsAfter_cons_of_isPlain hsmall] at h
        exact ih (List.cons_ne_nil _ _) (List.forall_mem_cons.2 ⟨hsmall, hplain⟩) hcs h
      · obtain ⟨previous, before, rfl⟩ := List.exists_cons_of_ne_nil hcurrent
        rw [wordsAfter_cons_of_isUpper hupper (isAlphanumeric_of_isAlphanum hc)
          (hplain previous (List.mem_cons_self ..)), List.cons.injEq] at h
        rw [← h.1]
        exact fun x hx => hplain x (List.mem_reverse.1 hx)

/-- **The words of letters and digits.**  All words but the first begin with a capital, and the first
has none if it does not begin with one. -/
theorem exists_words_cons {c : Char} {rest : List Char}
    (h : ∀ x ∈ c :: rest, x.isAlphanum = true) :
    ∃ w ws, words (c :: rest) = (c :: w) :: ws ∧ w ++ ws.flatten = rest ∧
      (∀ v ∈ ws, BeginsCapital v ∧ ∀ x ∈ v, x.isAlphanum = true) ∧
      (IsPlain c → ∀ x ∈ c :: w, IsPlain x) := by
  have halphanumeric : ∀ x ∈ c :: rest, isAlphanumeric x = true := fun x hx =>
    isAlphanumeric_of_isAlphanum (h x hx)
  obtain ⟨hc, hrest⟩ := List.forall_mem_cons.1 halphanumeric
  have hfirst : words (c :: rest) = wordsAfter [c] rest := by rw [words, wordsAfter, if_pos hc]
  obtain ⟨w, ws, hwords, hws⟩ := exists_wordsAfter (List.cons_ne_nil c []) hrest
  rw [List.reverse_singleton, List.singleton_append] at hwords
  have hflat : c :: (w ++ ws.flatten) = c :: rest := by
    have hletters := flatten_words (c :: rest)
    rwa [hfirst, hwords, List.filter_eq_self.2 halphanumeric] at hletters
  have htail : w ++ ws.flatten = rest := (List.cons.inj hflat).2
  refine ⟨w, ws, hfirst.trans hwords, htail, ?_, ?_⟩
  · refine fun v hv => ⟨hws v hv, fun x hx => h x ?_⟩
    rw [← htail]
    exact List.mem_cons_of_mem _ (List.mem_append_right _ (List.mem_flatten.2 ⟨v, hv, hx⟩))
  · intro hplain
    exact isPlain_of_wordsAfter (List.cons_ne_nil c []) (by simpa using hplain)
      (fun x hx => h x (List.mem_cons_of_mem _ hx)) hwords

/-! ## Capitalized words -/

theorem capitalizeWord_of_isAlphanum {c : Char} (h : c.isAlphanum = true) (rest : List Char) :
    capitalizeWord (c :: rest) = c.toUpper :: rest := by
  rw [capitalizeWord, (followsAscii (toNat_lt_of_isAlphanum h)).upperOf, List.singleton_append]

theorem isAlphanum_of_mem_capitalizeWord {w : Word} (h : ∀ c ∈ w, c.isAlphanum = true) :
    ∀ x ∈ capitalizeWord w, x.isAlphanum = true := by
  cases w with
  | nil => exact List.forall_mem_nil _
  | cons c rest =>
      obtain ⟨hc, hrest⟩ := List.forall_mem_cons.1 h
      rw [capitalizeWord_of_isAlphanum hc]
      exact List.forall_mem_cons.2 ⟨(hasCases hc).isAlphanum_toUpper, hrest⟩

/-- Words that begin with capitals are capitalized already. -/
theorem flatMap_capitalizeWord_of_beginsCapital {ws : List Word}
    (h : ∀ w ∈ ws, BeginsCapital w ∧ ∀ x ∈ w, x.isAlphanum = true) :
    ws.flatMap capitalizeWord = ws.flatten := by
  have hfixed : ∀ w ∈ ws, capitalizeWord w = w := by
    intro w hw
    obtain ⟨hcapital, halphanum⟩ := h w hw
    cases w with
    | nil => rfl
    | cons c rest =>
        have hc := halphanum c (List.mem_cons_self ..)
        have hupper : c.isUpper = true := by
          rw [← (followsAscii (toNat_lt_of_isAlphanum hc)).isUpper]
          exact hcapital
        rw [capitalizeWord_of_isAlphanum hc, (hasCases hc).toUpper_of_isUpper hupper]
  rw [List.flatMap_def, List.map_congr_left hfixed, List.map_id']

/-- Pascal case of letters and digits is the text with its first letter in upper case. -/
theorem pascal_of_isAlphanum {text : List Char} (h : ∀ x ∈ text, x.isAlphanum = true) :
    pascal text = capitalizeWord text := by
  cases text with
  | nil => rfl
  | cons c rest =>
      obtain ⟨w, ws, hwords, hrest, hws, -⟩ := exists_words_cons h
      have hc := h c (List.mem_cons_self ..)
      rw [pascal, hwords, List.flatMap_cons, flatMap_capitalizeWord_of_beginsCapital hws,
        capitalizeWord_of_isAlphanum hc, List.cons_append, hrest, capitalizeWord_of_isAlphanum hc]

/-- Camel case leaves letters and digits alone if they do not begin with a capital. -/
theorem camel_of_isAlphanum {c : Char} {rest : List Char}
    (h : ∀ x ∈ c :: rest, x.isAlphanum = true) (hc : IsPlain c) :
    camel (c :: rest) = c :: rest := by
  obtain ⟨w, ws, hwords, hrest, hws, hplain⟩ := exists_words_cons h
  simp only [camel, hwords]
  rw [lowercase_of_isPlain (hplain hc), flatMap_capitalizeWord_of_beginsCapital hws,
    List.cons_append, hrest]

/-! ## The conversions -/

theorem isAlphanum_of_mem_flatMap {ws : List Word}
    (h : ∀ w ∈ ws, ∀ c ∈ w, c.isAlphanum = true) :
    ∀ x ∈ ws.flatMap capitalizeWord, x.isAlphanum = true := by
  intro x hx
  obtain ⟨w, hw, hx⟩ := List.mem_flatMap.1 hx
  exact isAlphanum_of_mem_capitalizeWord (h w hw) x hx

theorem pascal_pascal (h : IsAscii symbol) : pascal (pascal symbol) = pascal symbol := by
  have halphanum : ∀ w ∈ words symbol, ∀ c ∈ w, c.isAlphanum = true := fun w =>
    isAlphanum_of_mem_words h
  have hpascal : ∀ x ∈ pascal symbol, x.isAlphanum = true := isAlphanum_of_mem_flatMap halphanum
  rw [pascal_of_isAlphanum hpascal, pascal]
  cases hwords : words symbol with
  | nil => rfl
  | cons w ws =>
      have hw : w ∈ words symbol := hwords ▸ List.mem_cons_self ..
      obtain ⟨c, rest, rfl⟩ := List.exists_cons_of_ne_nil (ne_nil_of_mem_words hw)
      have hc : c.isAlphanum = true := halphanum _ hw c (List.mem_cons_self ..)
      rw [List.flatMap_cons, capitalizeWord_of_isAlphanum hc, List.cons_append,
        capitalizeWord_of_isAlphanum (hasCases hc).isAlphanum_toUpper, (hasCases hc).toUpper_toUpper]

theorem camel_camel (h : IsAscii symbol) : camel (camel symbol) = camel symbol := by
  cases hwords : words symbol with
  | nil =>
      have hempty : camel symbol = [] := by simp only [camel, hwords]
      rw [hempty]
      rfl
  | cons w ws =>
      have halphanum : ∀ v ∈ w :: ws, ∀ c ∈ v, c.isAlphanum = true := fun v hv =>
        isAlphanum_of_mem_words h (hwords ▸ hv)
      obtain ⟨hw, hws⟩ := List.forall_mem_cons.1 halphanum
      have hplain := isPlain_of_mem_lowercase hw
      obtain ⟨c, rest, rfl⟩ := List.exists_cons_of_ne_nil
        (ne_nil_of_mem_words (hwords ▸ List.mem_cons_self .. : w ∈ words symbol))
      have hcamel : camel symbol
          = c.toLower :: (rest.map Char.toLower ++ ws.flatMap capitalizeWord) := by
        simp only [camel, hwords]
        rw [lowercase_of_isAlphanum hw, List.map_cons, List.cons_append]
      rw [lowercase_of_isAlphanum hw, List.map_cons] at hplain
      rw [hcamel]
      refine camel_of_isAlphanum ?_ (hplain _ (List.mem_cons_self ..))
      rw [← List.cons_append]
      exact List.forall_mem_append.2
        ⟨fun x hx => (hplain x hx).isAlphanum, isAlphanum_of_mem_flatMap hws⟩

/-- **The conversions are idempotent on ASCII.**  Done again, each of them leaves the name alone. -/
theorem conversions_idempotent {symbol : String} (h : IsAscii symbol.toList) :
    toSnakeCase (toSnakeCase symbol) = toSnakeCase symbol ∧
    toPascalCase (toPascalCase symbol) = toPascalCase symbol ∧
    toCamelCase (toCamelCase symbol) = toCamelCase symbol := by
  refine ⟨?snake, ?pascal, ?camel⟩
  case snake => rw [toSnakeCase, toSnakeCase, String.toList_ofList, snake_snake h]
  case pascal => rw [toPascalCase, toPascalCase, String.toList_ofList, pascal_pascal h]
  case camel => rw [toCamelCase, toCamelCase, String.toList_ofList, camel_camel h]

/-- Words that merge when the separators are gone: `XML`, `Http`, `a`, `b2`, `C` become `XML`,
`Http`, `AB2`, `C`. -/
theorem xmlHttp_convertedTwice :
    IsAscii "XMLHttp-a.b2__C!".toList ∧
      toSnakeCase "XMLHttp-a.b2__C!" = "xml_http_a_b2_c" ∧
      toSnakeCase "xml_http_a_b2_c" = "xml_http_a_b2_c" ∧
      toPascalCase "XMLHttp-a.b2__C!" = "XMLHttpAB2C" ∧
      toPascalCase "XMLHttpAB2C" = "XMLHttpAB2C" ∧
      toCamelCase "XMLHttp-a.b2__C!" = "xmlHttpAB2C" ∧
      toCamelCase "xmlHttpAB2C" = "xmlHttpAB2C" := by
  have hascii : IsAscii "XMLHttp-a.b2__C!".toList := by decide +kernel
  have hsnake : toSnakeCase "XMLHttp-a.b2__C!" = "xml_http_a_b2_c" := by decide +kernel
  have hpascal : toPascalCase "XMLHttp-a.b2__C!" = "XMLHttpAB2C" := by decide +kernel
  have hcamel : toCamelCase "XMLHttp-a.b2__C!" = "xmlHttpAB2C" := by decide +kernel
  obtain ⟨hsnakes, hpascals, hcamels⟩ := conversions_idempotent hascii
  rw [hsnake] at hsnakes
  rw [hpascal] at hpascals
  rw [hcamel] at hcamels
  exact ⟨hascii, hsnake, hsnakes, hpascal, hpascals, hcamel, hcamels⟩

end Naming

/-- Beyond ASCII a lower case may have a mark that separates words. -/
example : Naming.toSnakeCase "İd" = "i̇d" ∧ Naming.toSnakeCase "i̇d" = "i_d" := by decide +kernel

end ClientGen
