import ClientGen.Proofs.AsciiText
import ClientGen.Proofs.FieldNames
import ClientGen.Proofs.Splitting
import Mathlib.Data.Set.Function

/-!
# Names in lower snake case

The fields of a schema are named in lower snake case.  The conversions throw the underscores away,
and only capitals mark where a word begins.  The words can still be recovered, as a capital stands
at the beginning of a word and nowhere else.

* `Naming.IsLowerSnake` — words of small letters and digits, each with a letter at its beginning,
  with single underscores between.
* `Naming.words_of_isLowerSnake`, `Naming.flatMap_capitalizeWord_inj` — the words of such a name are
  those between the underscores, and they can be told from the capitalized words put together.
* `Naming.wordsAfter_capitalized` — the splitter finds the capitalized words again when none of them
  is a single letter.
* `Naming.lowerSnake_conversions` — Pascal case and camel case keep names apart, and snake case
  takes both back.
-/

namespace ClientGen

open Text

namespace Naming

/-! ## Names -/

/-- A small letter, then small letters and digits. -/
def IsSnakeWord : Word → Prop
  | [] => False
  | c :: rest => c.isLower = true ∧ ∀ x ∈ rest, IsPlain x

instance decidableIsSnakeWord : (w : Word) → Decidable (IsSnakeWord w)
  | [] => isFalse id
  | c :: rest =>
      decidable_of_iff (c.isLower = true ∧ rest.all (fun x => decide (IsPlain x)) = true)
        (by simp [IsSnakeWord])

/-- The words between the underscores of a name. -/
def snakeWords (name : String) : List Word :=
  name.toList.splitOn '_'

/-- The name is made of one or more words in lower case with single underscores between. -/
def IsLowerSnake (name : String) : Prop :=
  ∀ w ∈ snakeWords name, IsSnakeWord w

instance (name : String) : Decidable (IsLowerSnake name) :=
  inferInstanceAs (Decidable (∀ w ∈ snakeWords name, IsSnakeWord w))

theorem IsSnakeWord.isPlain {w : Word} (h : IsSnakeWord w) : ∀ x ∈ w, IsPlain x := by
  cases w with
  | nil => exact h.elim
  | cons c rest => exact List.forall_mem_cons.2 ⟨Or.inl h.1, h.2⟩

theorem IsSnakeWord.ne_nil {w : Word} (h : IsSnakeWord w) : w ≠ [] := by
  rintro rfl
  exact h

/-- A name is the join of its words. -/
theorem intercalate_snakeWords (name : String) :
    ['_'].intercalate (snakeWords name) = name.toList :=
  List.intercalate_splitOn '_'

theorem snakeWords_inj {name name' : String} (h : snakeWords name = snakeWords name') :
    name = name' := by
  rw [← String.toList_inj, ← intercalate_snakeWords name, h, intercalate_snakeWords]

/-! ## Reading words -/

/-- A small letter or a digit goes on with the word before it. -/
theorem wordsAfter_cons_of_isPlain {x : Char} (h : IsPlain x) (current rest : List Char) :
    wordsAfter current (x :: rest) = wordsAfter (x :: current) rest := by
  cases current with
  | nil => simp [wordsAfter, h.isAlphanumeric]
  | cons previous before => simp [wordsAfter, h.isAlphanumeric, startsWord, h.isUpper]

theorem wordsAfter_append_of_isPlain {run : List Char} (h : ∀ x ∈ run, IsPlain x)
    (current rest : List Char) :
    wordsAfter current (run ++ rest) = wordsAfter (run.reverse ++ current) rest := by
  induction run generalizing current with
  | nil => rfl
  | cons x run ih =>
      rw [List.cons_append, wordsAfter_cons_of_isPlain (h x (List.mem_cons_self ..)),
        ih (fun y hy => h y (List.mem_cons_of_mem _ hy)), List.reverse_cons, List.append_assoc,
        List.singleton_append]

/-- A capital after a small letter or a digit begins a word. -/
theorem wordsAfter_cons_of_isUpper {x previous : Char} (hx : isUpper x = true)
    (halphanumeric : isAlphanumeric x = true) (hprevious : IsPlain previous)
    (before rest : List Char) :
    wordsAfter (previous :: before) (x :: rest)
      = (previous :: before).reverse :: wordsAfter [x] rest := by
  have hstarts : startsWord previous x rest.head? = true := by
    have hascii := followsAscii hprevious.toNat_lt
    have hdigit : isAsciiDigit previous = previous.isDigit := by
      simp [isAsciiDigit, Char.isDigit, Char.le_def]
    rcases hprevious with h | h
    · simp [startsWord, hx, hascii.isLower, h]
    · simp [startsWord, hx, hdigit, h]
  rw [wordsAfter_cons_inside halphanumeric, if_pos hstarts]

theorem isWord_of_isPlain {w : Word} (hne : w ≠ []) (h : ∀ x ∈ w, IsPlain x) : IsWord w where
  ne_nil := hne
  isAlphanumeric := fun x hx => (h x hx).isAlphanumeric
  unbroken := unbroken_of_not_isUpper (fun x hx => (h x (List.mem_reverse.1 hx)).isUpper) none

/-- **The words of a name in lower snake case stand between its underscores.** -/
theorem words_of_isLowerSnake {name : String} (h : IsLowerSnake name) :
    words name.toList = snakeWords name := by
  rw [← intercalate_snakeWords]
  exact words_intercalate fun w hw => isWord_of_isPlain (h w hw).ne_nil (h w hw).isPlain

/-! ## Capitalized words -/

theorem capitalizeWord_cons {c : Char} (h : c.isLower = true) (rest : List Char) :
    capitalizeWord (c :: rest) = c.toUpper :: rest := by
  rw [capitalizeWord, upperOf_of_isLower h, List.singleton_append]

/-- Lower casing takes the capital back. -/
theorem lowercase_capitalizeWord {w : Word} (h : IsSnakeWord w) :
    lowercase (capitalizeWord w) = w := by
  cases w with
  | nil => exact h.elim
  | cons c rest =>
      obtain ⟨hc, hrest⟩ := h
      obtain ⟨hlt, -, hlower⟩ := toUpper_of_isLower hc
      have hascii : ∀ x ∈ c.toUpper :: rest, x.toNat < 128 :=
        List.forall_mem_cons.2 ⟨hlt, fun x hx => (hrest x hx).toNat_lt⟩
      have hplain : rest.map Char.toLower = rest := by
        rw [List.map_congr_left fun x hx => (hrest x hx).toLower, List.map_id']
      rw [capitalizeWord_cons hc, lowercase_of_ascii hascii, List.map_cons, hlower, hplain]

theorem lowercase_of_isPlain {w : Word} (h : ∀ x ∈ w, IsPlain x) : lowercase w = w := by
  rw [lowercase_of_ascii fun x hx => (h x hx).toNat_lt,
    List.map_congr_left fun x hx => (h x hx).toLower, List.map_id']

/-- Capitalized words one after the other begin with a capital. -/
theorem isUpper_of_flatMap_capitalizeWord {ws : List Word} (h : ∀ w ∈ ws, IsSnakeWord w) :
    ∀ x ∈ (ws.flatMap capitalizeWord).head?, isUpper x = true := by
  intro x hx
  cases ws with
  | nil => simp at hx
  | cons w ws =>
      cases w with
      | nil => exact (h [] (List.mem_cons_self ..)).elim
      | cons c rest =>
          have hc : c.isLower = true := (h (c :: rest) (List.mem_cons_self ..)).1
          rw [List.flatMap_cons, capitalizeWord_cons hc] at hx
          simp at hx
          exact hx ▸ isUpper_toUpper hc

/-- A run of small letters and digits ends where capitalized words begin. -/
theorem append_capitalized_inj {run run' : List Char} {ws ws' : List Word}
    (hrun : ∀ x ∈ run, IsPlain x) (hrun' : ∀ x ∈ run', IsPlain x)
    (h : ∀ w ∈ ws, IsSnakeWord w) (h' : ∀ w ∈ ws', IsSnakeWord w)
    (heq : run ++ ws.flatMap capitalizeWord = run' ++ ws'.flatMap capitalizeWord) :
    run = run' ∧ ws.flatMap capitalizeWord = ws'.flatMap capitalizeWord :=
  append_inj_of_run (p := fun x => !isUpper x) (fun x hx => by simp [(hrun x hx).isUpper])
    (fun x hx => by simp [(hrun' x hx).isUpper])
    (fun x hx => by simp [isUpper_of_flatMap_capitalizeWord h x hx])
    (fun x hx => by simp [isUpper_of_flatMap_capitalizeWord h' x hx]) heq

/-- **Capitals mark the beginnings of words**, so that capitalized words can be told apart again. -/
theorem flatMap_capitalizeWord_inj {ws ws' : List Word} (h : ∀ w ∈ ws, IsSnakeWord w)
    (h' : ∀ w ∈ ws', IsSnakeWord w)
    (heq : ws.flatMap capitalizeWord = ws'.flatMap capitalizeWord) : ws = ws' := by
  have hnil : ∀ w ws, IsSnakeWord w → (w :: ws).flatMap capitalizeWord ≠ [] := by
    intro w ws hw
    rw [List.flatMap_cons]
    exact List.append_ne_nil_of_left_ne_nil (capitalizeWord_ne_nil hw.ne_nil) _
  induction ws generalizing ws' with
  | nil =>
      cases ws' with
      | nil => rfl
      | cons w' ws' => exact absurd heq.symm (hnil w' ws' (h' w' (List.mem_cons_self ..)))
  | cons w ws ih =>
      have hw := h w (List.mem_cons_self ..)
      cases ws' with
      | nil => exact absurd heq (hnil w ws hw)
      | cons w' ws' =>
          have hw' := h' w' (List.mem_cons_self ..)
          have hws := fun v hv => h v (List.mem_cons_of_mem w hv)
          have hws' := fun v hv => h' v (List.mem_cons_of_mem w' hv)
          obtain ⟨c, rest, rfl⟩ := List.exists_cons_of_ne_nil hw.ne_nil
          obtain ⟨c', rest', rfl⟩ := List.exists_cons_of_ne_nil hw'.ne_nil
          rw [List.flatMap_cons, List.flatMap_cons, capitalizeWord_cons hw.1,
            capitalizeWord_cons hw'.1, List.cons_append, List.cons_append, List.cons.injEq] at heq
          obtain ⟨hcapital, htail⟩ := heq
          obtain ⟨hrest, hflat⟩ := append_capitalized_inj hw.2 hw'.2 hws hws' htail
          have hc : c = c' := by
            rw [← (toUpper_of_isLower hw.1).2.2, hcapital, (toUpper_of_isLower hw'.1).2.2]
          rw [hc, hrest, ih hws hws' hflat]

/-- Capitalized words are told apart after any character, once small letters or digits follow it. -/
theorem wordsAfter_capitalized {rest : List Char} (hrest : ∀ y ∈ rest, IsPlain y)
    (hne : rest ≠ []) (x : Char) {ws : List Word} (h : ∀ w ∈ ws, IsSnakeWord w)
    (hlong : ∀ w ∈ ws, 2 ≤ w.length) :
    wordsAfter [x] (rest ++ ws.flatMap capitalizeWord) = (x :: rest) :: ws.map capitalizeWord := by
  induction ws generalizing x rest with
  | nil => rw [List.flatMap_nil, wordsAfter_append_of_isPlain hrest]; simp [wordsAfter, finish]
  | cons w ws ih =>
      have hw := h w (List.mem_cons_self ..)
      have hlength := hlong w (List.mem_cons_self ..)
      obtain ⟨c, rest', rfl⟩ := List.exists_cons_of_ne_nil hw.ne_nil
      have hne' : rest' ≠ [] := by
        rintro rfl
        simp at hlength
      -- what is read so far ends in a small letter or a digit, so that the capital begins a word
      obtain ⟨y, tail, hreverse⟩ := List.exists_cons_of_ne_nil (List.reverse_ne_nil_iff.2 hne)
      have hy : IsPlain y := hrest y (List.mem_reverse.1 (hreverse ▸ List.mem_cons_self ..))
      have hword : (y :: (tail ++ [x])).reverse = x :: rest := by
        rw [← List.cons_append, ← hreverse]
        simp
      rw [wordsAfter_append_of_isPlain hrest, hreverse, List.flatMap_cons,
        capitalizeWord_cons hw.1, List.cons_append, List.cons_append,
        wordsAfter_cons_of_isUpper (isUpper_toUpper hw.1) (isAlphanumeric_toUpper hw.1) hy, hword,
        ih hw.2 hne' c.toUpper (fun v hv => h v (List.mem_cons_of_mem _ hv))
          (fun v hv => hlong v (List.mem_cons_of_mem _ hv)),
        List.map_cons, capitalizeWord_cons hw.1]

/-! ## The conversions -/

theorem exists_snakeWords {name : String} (h : IsLowerSnake name) :
    ∃ c rest ws, snakeWords name = (c :: rest) :: ws ∧ c.isLower = true ∧
      (∀ x ∈ rest, IsPlain x) ∧ ∀ w ∈ ws, IsSnakeWord w := by
  obtain ⟨w, ws, hws⟩ := List.exists_cons_of_ne_nil (List.splitOn_ne_nil '_' name.toList)
  have hwords : snakeWords name = w :: ws := hws
  have hall : ∀ v ∈ w :: ws, IsSnakeWord v := hwords ▸ h
  obtain ⟨c, rest, rfl⟩ := List.exists_cons_of_ne_nil (hall w (List.mem_cons_self ..)).ne_nil
  obtain ⟨hc, hrest⟩ := hall (c :: rest) (List.mem_cons_self ..)
  exact ⟨c, rest, ws, hwords, hc, hrest, fun v hv => hall v (List.mem_cons_of_mem _ hv)⟩

theorem pascal_of_isLowerSnake {name : String} (h : IsLowerSnake name) :
    pascal name.toList = (snakeWords name).flatMap capitalizeWord := by
  rw [pascal, words_of_isLowerSnake h]

theorem camel_of_isLowerSnake {name : String} (h : IsLowerSnake name) {w : Word} {ws : List Word}
    (hwords : snakeWords name = w :: ws) :
    camel name.toList = w ++ ws.flatMap capitalizeWord := by
  have hw : IsSnakeWord w := h w (hwords ▸ List.mem_cons_self ..)
  simp only [camel, words_of_isLowerSnake h, hwords, lowercase_of_isPlain hw.isPlain]

/-- No two names in lower snake case have the same Pascal case. -/
theorem injOn_toPascalCase : Set.InjOn toPascalCase {name | IsLowerSnake name} := by
  intro name h name' h' heq
  have hpascal : pascal name.toList = pascal name'.toList := String.ofList_injective heq
  rw [pascal_of_isLowerSnake h, pascal_of_isLowerSnake h'] at hpascal
  exact snakeWords_inj (flatMap_capitalizeWord_inj h h' hpascal)

/-- No two names in lower snake case have the same camel case. -/
theorem injOn_toCamelCase : Set.InjOn toCamelCase {name | IsLowerSnake name} := by
  intro name h name' h' heq
  obtain ⟨c, rest, ws, hwords, hc, hrest, hws⟩ := exists_snakeWords h
  obtain ⟨c', rest', ws', hwords', hc', hrest', hws'⟩ := exists_snakeWords h'
  have hcamel : camel name.toList = camel name'.toList := String.ofList_injective heq
  rw [camel_of_isLowerSnake h hwords, camel_of_isLowerSnake h' hwords'] at hcamel
  obtain ⟨hfirst, hothers⟩ := append_capitalized_inj (List.forall_mem_cons.2 ⟨Or.inl hc, hrest⟩)
    (List.forall_mem_cons.2 ⟨Or.inl hc', hrest'⟩) hws hws' hcamel
  apply snakeWords_inj
  rw [hwords, hwords', hfirst, flatMap_capitalizeWord_inj hws hws' hothers]

/-- Snake case of words that are those of the name but for capitals is the name. -/
theorem snake_eq_of_words {name : String} {symbol : List Char}
    (h : (words symbol).map lowercase = snakeWords name) : snake symbol = name.toList := by
  rw [snake, h, intercalate_snakeWords]

theorem map_lowercase_capitalizeWord {ws : List Word} (h : ∀ w ∈ ws, IsSnakeWord w) :
    (ws.map capitalizeWord).map lowercase = ws := by
  have hback : ∀ w ∈ ws, (lowercase ∘ capitalizeWord) w = w := fun w hw =>
    lowercase_capitalizeWord (h w hw)
  rw [List.map_map, List.map_congr_left hback, List.map_id']

/-- Snake case takes Pascal case back if no word is a single letter. -/
theorem toSnakeCase_toPascalCase {name : String} (h : IsLowerSnake name)
    (hlong : ∀ w ∈ snakeWords name, 2 ≤ w.length) : toSnakeCase (toPascalCase name) = name := by
  obtain ⟨c, rest, ws, hwords, hc, hrest, hws⟩ := exists_snakeWords h
  rw [hwords, List.forall_mem_cons] at hlong
  have hne : rest ≠ [] := by
    rintro rfl
    simpa using hlong.1
  have hpascal : words (pascal name.toList) = ((c :: rest) :: ws).map capitalizeWord := by
    rw [pascal_of_isLowerSnake h, hwords, List.flatMap_cons, capitalizeWord_cons hc, words,
      List.cons_append, wordsAfter, if_pos (isAlphanumeric_toUpper hc),
      wordsAfter_capitalized hrest hne c.toUpper hws hlong.2, List.map_cons,
      capitalizeWord_cons hc]
  rw [toSnakeCase, toPascalCase, String.toList_ofList, snake_eq_of_words, String.ofList_toList]
  rw [hpascal, hwords]
  exact map_lowercase_capitalizeWord (hwords ▸ h)

/-- Snake case takes camel case back if no word is a single letter. -/
theorem toSnakeCase_toCamelCase {name : String} (h : IsLowerSnake name)
    (hlong : ∀ w ∈ snakeWords name, 2 ≤ w.length) : toSnakeCase (toCamelCase name) = name := by
  obtain ⟨c, rest, ws, hwords, hc, hrest, hws⟩ := exists_snakeWords h
  rw [hwords, List.forall_mem_cons] at hlong
  have hne : rest ≠ [] := by
    rintro rfl
    simpa using hlong.1
  have hcamel : words (camel name.toList) = (c :: rest) :: ws.map capitalizeWord := by
    rw [camel_of_isLowerSnake h hwords, words, List.cons_append,
      wordsAfter_cons_of_isPlain (Or.inl hc), wordsAfter_capitalized hrest hne c hws hlong.2]
  rw [toSnakeCase, toCamelCase, String.toList_ofList, snake_eq_of_words, String.ofList_toList]
  rw [hcamel, hwords, List.map_cons, map_lowercase_capitalizeWord hws,
    lowercase_of_isPlain (h (c :: rest) (hwords ▸ List.mem_cons_self ..)).isPlain]

/-- **Names in lower snake case stay apart.**  No two of them have the same Pascal case or the same
camel case, so the struct fields of a message have different names if the fields have.  If no word
is a single letter, snake case takes the two conversions back. -/
theorem lowerSnake_conversions :
    Set.InjOn toPascalCase {name | IsLowerSnake name} ∧
    Set.InjOn toCamelCase {name | IsLowerSnake name} ∧
    (∀ (g : GoCodec) (t : SymbolTable) (m : Message) (record : MessageView),
      g.toCodec.messageView t m = .ok record →
        ∀ field ∈ record.fields, ∀ field' ∈ record.fields,
          IsLowerSnake field.name → IsLowerSnake field'.name → field.name ≠ field'.name →
            field.nameToPascal ≠ field'.nameToPascal) ∧
    ∀ name, IsLowerSnake name → (∀ w ∈ snakeWords name, 2 ≤ w.length) →
      toSnakeCase (toPascalCase name) = name ∧ toSnakeCase (toCamelCase name) = name := by
  refine ⟨injOn_toPascalCase, injOn_toCamelCase, ?fields, ?back⟩
  case fields =>
    intro g t m record hrecord field hfield field' hfield' h h' hne heq
    rw [GoCodec.nameToPascal_of_declares ⟨m, record, hrecord, hfield⟩,
      GoCodec.nameToPascal_of_declares ⟨m, record, hrecord, hfield'⟩] at heq
    exact hne (injOn_toPascalCase h h' heq)
  case back =>
    intro name h hlong
    exact ⟨toSnakeCase_toPascalCase h hlong, toSnakeCase_toCamelCase h hlong⟩

/-- A name with digits is taken back, and a name is not confused with that of its joined words. -/
theorem displayName_converted :
    (IsLowerSnake "v1beta2_display_name" ∧
        ∀ w ∈ snakeWords "v1beta2_display_name", 2 ≤ w.length) ∧
      toSnakeCase (toPascalCase "v1beta2_display_name") = "v1beta2_display_name" ∧
      toSnakeCase (toCamelCase "v1beta2_display_name") = "v1beta2_display_name" ∧
      (IsLowerSnake "a_b" ∧ IsLowerSnake "ab") ∧ toPascalCase "a_b" ≠ toPascalCase "ab" := by
  have hname : IsLowerSnake "v1beta2_display_name" := by decide +kernel
  have hlong : ∀ w ∈ snakeWords "v1beta2_display_name", 2 ≤ w.length := by decide +kernel
  have hshort : IsLowerSnake "a_b" ∧ IsLowerSnake "ab" := by decide +kernel
  obtain ⟨hinjective, -, -, hback⟩ := lowerSnake_conversions
  obtain ⟨hpascal, hcamel⟩ := hback _ hname hlong
  refine ⟨⟨hname, hlong⟩, hpascal, hcamel, hshort, fun heq => ?_⟩
  exact absurd (hinjective hshort.1 hshort.2 heq) (by decide)

end Naming

/-- A word of a single letter is lost. -/
example : Naming.toSnakeCase (Naming.toPascalCase "a_b") = "ab" := by decide +kernel

end ClientGen
