import ClientGen.Codec.Go
import ClientGen.Proofs.SnakeNames

/-!
# Snake case of symbols in lower case

The Go codec passes a symbol on as it is if lower casing does not change it.  That is its snake case
only if its words stand between single underscores already: other separators, and underscores at
the ends or in a row, are kept where the conversion replaces or drops them.

* `Text.lowercase_eq_self_iff` — the texts that lower casing leaves alone.
* `Naming.IsSnakeSpelled`, `Naming.toSnakeCase_eq_self_iff` — the symbols that are their own snake
  case.
* `GoCodec.escapeGoKeyword_eq_iff` — the escape of keywords hides a difference between a keyword and
  the keyword with an underscore behind it.
* `GoCodec.toSnake_eq_iff` — the symbols for which the shortcut gives the name that the conversion
  gives.
-/

namespace ClientGen

/-! ## Texts in lower case -/

namespace Text

/-- Every character has a lower case, be it the character itself. -/
theorem lowerOf_ne_nil (c : Char) : lowerOf c ≠ [] := by
  have htable : ∀ entry ∈ lowerExpansions, entry.2 ≠ [] := by decide
  unfold lowerOf
  cases h : expansionOf lowerExpansions c.toNat with
  | none => exact List.cons_ne_nil _ _
  | some text => exact htable _ (mem_of_expansionOf h)

theorem length_le_length_lowerAfter (before cs : List Char) :
    cs.length ≤ (lowerAfter before cs).length := by
  induction cs generalizing before with
  | nil => exact Nat.zero_le _
  | cons c cs ih =>
      have hrest := ih (c :: before)
      rw [lowerAfter, List.length_append, List.length_cons]
      split
      · simp only [List.length_singleton]
        omega
      · have hc := List.length_pos_of_ne_nil (lowerOf_ne_nil c)
        omega

/-- The character is its own lower case, wherever it stands. -/
def KeepsLower (c : Char) : Prop :=
  c ≠ 'Σ' ∧ lowerOf c = [c]

theorem smallSigma_ne (before after : List Char) : smallSigma before after ≠ 'Σ' := by
  unfold smallSigma
  split <;> decide

theorem lowerAfter_eq_self_iff {before cs : List Char} :
    lowerAfter before cs = cs ↔ ∀ c ∈ cs, KeepsLower c := by
  induction cs generalizing before with
  | nil => simp [lowerAfter]
  | cons c cs ih =>
      rw [lowerAfter, List.forall_mem_cons, ← @ih (c :: before)]
      constructor
      · intro h
        -- nothing gets shorter, so that the lower case of `c` is one character
        have hrest := length_le_length_lowerAfter (c :: before) cs
        have hlength := congrArg List.length h
        rw [List.length_append, List.length_cons] at hlength
        by_cases hsigma : c = 'Σ'
        · rw [if_pos hsigma, List.singleton_append, List.cons.injEq] at h
          exact absurd (h.1.trans hsigma) (smallSigma_ne _ _)
        · rw [if_neg hsigma] at h hlength
          have hpos := List.length_pos_of_ne_nil (lowerOf_ne_nil c)
          have hone : (lowerOf c).length = [c].length := by
            rw [List.length_singleton]
            omega
          obtain ⟨hc, hcs⟩ := List.append_inj h hone
          exact ⟨⟨hsigma, hc⟩, hcs⟩
      · rintro ⟨⟨hsigma, hc⟩, hcs⟩
        rw [if_neg hsigma, hc, hcs, List.singleton_append]

/-- A text is its own lower case if and only if all its characters are. -/
theorem lowercase_eq_self_iff {cs : List Char} : lowercase cs = cs ↔ ∀ c ∈ cs, KeepsLower c :=
  lowerAfter_eq_self_iff

end Text

open Text

/-! ## Symbols that are their own snake case -/

namespace Naming

/-- The words of the symbol stand between single underscores, if there are any. -/
def IsSnakeSpelled (symbol : String) : Prop :=
  symbol = "" ∨ ∀ w ∈ snakeWords symbol, IsWord w

/-- Without capitals the snake case of a symbol is its words joined by underscores. -/
theorem snake_of_lowercase {symbol : List Char} (h : lowercase symbol = symbol) :
    snake symbol = ['_'].intercalate (words symbol) := by
  have hwords : ∀ w ∈ words symbol, lowercase w = w := by
    intro w hw
    rw [lowercase_eq_self_iff] at h ⊢
    exact fun c hc => h c (mem_of_mem_words hw hc)
  rw [snake, List.map_congr_left hwords, List.map_id']

/-- **A symbol in lower case is its own snake case if and only if it is spelled so.** -/
theorem toSnakeCase_eq_self_iff {symbol : String} (h : toLowercase symbol = symbol) :
    toSnakeCase symbol = symbol ↔ IsSnakeSpelled symbol := by
  have hlower : lowercase symbol.toList = symbol.toList := by
    rw [← String.toList_inj, toLowercase, String.toList_ofList] at h
    exact h
  rw [← String.toList_inj, toSnakeCase, String.toList_ofList, snake_of_lowercase hlower]
  constructor
  · intro hjoin
    by_cases hnil : words symbol.toList = []
    · rw [hnil] at hjoin
      exact Or.inl (String.toList_inj.1 hjoin.symm)
    · have hfree : ∀ w ∈ words symbol.toList, '_' ∉ w := by
        intro w hw hunderscore
        exact absurd (isAlphanumeric_of_mem_words hw hunderscore) (by decide)
      have hsplit : snakeWords symbol = words symbol.toList := by
        rw [snakeWords, ← hjoin, List.splitOn_intercalate '_' hfree hnil, hjoin]
      refine Or.inr fun w hw => ?_
      rw [hsplit] at hw
      exact isWord_of_mem_words hw
  · rintro (rfl | hwords)
    · rfl
    · have hsplit := words_intercalate hwords
      rw [intercalate_snakeWords] at hsplit
      rw [hsplit, intercalate_snakeWords]

end Naming

open Naming

/-! ## The shortcut -/

namespace GoCodec

/-- Two symbols are escaped alike if they are equal, or if one of them is a keyword and the other is
that keyword with an underscore behind it. -/
theorem escapeGoKeyword_eq_iff {symbol symbol' : String} :
    escapeGoKeyword symbol = escapeGoKeyword symbol' ↔
      symbol = symbol' ∨ (symbol ∈ goKeywords ∧ symbol' = symbol ++ "_") ∨
        (symbol' ∈ goKeywords ∧ symbol = symbol' ++ "_") := by
  have hescaped : ∀ keyword ∈ goKeywords, keyword ++ "_" ∉ goKeywords := by decide +kernel
  unfold escapeGoKeyword
  by_cases h : symbol ∈ goKeywords
  · by_cases h' : symbol' ∈ goKeywords
    · have hfirst : symbol' ≠ symbol ++ "_" := fun heq => hescaped symbol h (heq ▸ h')
      have hsecond : symbol ≠ symbol' ++ "_" := fun heq => hescaped symbol' h' (heq ▸ h)
      simp [h, h', hfirst, hsecond]
    · have hne : symbol ≠ symbol' := fun heq => h' (heq ▸ h)
      simpa [h, h', hne] using eq_comm
  · by_cases h' : symbol' ∈ goKeywords
    · have hne : symbol ≠ symbol' := fun heq => h (heq ▸ h')
      simp [h, h', hne]
    · simp [h, h']

theorem toSnakeCase_of_mem_goKeywords : ∀ keyword ∈ goKeywords, toSnakeCase keyword = keyword := by
  decide +kernel

theorem toSnakeCase_escaped : ∀ keyword ∈ goKeywords, toSnakeCase (keyword ++ "_") = keyword := by
  decide +kernel

/-- A symbol and its snake case are escaped alike if they are equal, or if the symbol is a keyword
with an underscore behind it. -/
theorem escapeGoKeyword_toSnakeCase_iff {symbol : String} :
    escapeGoKeyword symbol = escapeGoKeyword (toSnakeCase symbol) ↔
      toSnakeCase symbol = symbol ∨ ∃ keyword ∈ goKeywords, symbol = keyword ++ "_" := by
  rw [escapeGoKeyword_eq_iff]
  constructor
  · rintro (heq | ⟨hkeyword, heq⟩ | ⟨hkeyword, heq⟩)
    · exact Or.inl heq.symm
    · exact Or.inl (toSnakeCase_of_mem_goKeywords symbol hkeyword)
    · exact Or.inr ⟨toSnakeCase symbol, hkeyword, heq⟩
  · rintro (heq | ⟨keyword, hkeyword, rfl⟩)
    · exact Or.inl heq.symm
    · rw [toSnakeCase_escaped keyword hkeyword]
      exact Or.inr (Or.inr ⟨hkeyword, rfl⟩)

/-- **When the shortcut is right.**  The codec gives a symbol the escaped snake case if and only if
lower casing changes the symbol, or it is spelled in snake case already, or it is an escaped
keyword. -/
theorem toSnake_eq_iff (symbol : String) :
    toSnake symbol = escapeGoKeyword (toSnakeCase symbol) ↔
      toLowercase symbol ≠ symbol ∨ IsSnakeSpelled symbol ∨
        ∃ keyword ∈ goKeywords, symbol = keyword ++ "_" := by
  rw [toSnake]
  by_cases hlower : toLowercase symbol = symbol
  · rw [if_pos hlower, escapeGoKeyword_toSnakeCase_iff, toSnakeCase_eq_self_iff hlower]
    exact (or_iff_right (not_not_intro hlower)).symm
  · rw [if_neg hlower]
    exact iff_of_true rfl (Or.inl hlower)

/-- Dashes and double underscores stay. -/
theorem displayName_unconverted :
    (toSnake "display-name" = "display-name" ∧
        escapeGoKeyword (toSnakeCase "display-name") = "display_name") ∧
      toSnake "display__name" = "display__name" ∧
        escapeGoKeyword (toSnakeCase "display__name") = "display_name" := by
  decide +kernel

end GoCodec

end ClientGen
