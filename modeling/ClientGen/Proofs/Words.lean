import ClientGen.Naming

/-!
# The words of a symbol

Whatever the conventions do with the words of a symbol, the words are all that there is to the
symbol: put together they are its letters and digits, and none is empty.

* `Naming.flatten_words` — the words one after the other.
* `Naming.HasWord` — a name with a letter or a digit has a word, so it is not lost in any convention
  (`Naming.toPascalCase_ne_empty`).
* `Text.upperOf_cases` — where upper case letters lie.  So Pascal case has no underscore and no dot,
  and does not begin with a small letter of ASCII (`Naming.underscore_notMem_pascal`,
  `Naming.dot_notMem_pascal`, `Naming.not_isAsciiSmall_of_pascal`).
-/

namespace ClientGen

/-! ## Upper case -/

namespace Text

theorem mem_of_expansionOf {table : List (Nat × List Char)} {n : Nat} {text : List Char}
    (h : expansionOf table n = some text) : (n, text) ∈ table := by
  induction table with
  | nil => cases h
  | cons entry table ih =>
      obtain ⟨k, expansion⟩ := entry
      rw [expansionOf] at h
      split at h
      · cases h
      · split at h
        · rename_i hk
          cases h
          rw [hk]
          exact List.mem_cons_self ..
        · exact List.mem_cons_of_mem _ (ih h)

/-- Every character has an upper case, be it the character itself. -/
theorem upperOf_ne_nil (c : Char) : upperOf c ≠ [] := by
  have htable : ∀ entry ∈ upperExpansions, entry.2 ≠ [] := by decide
  unfold upperOf
  cases h : expansionOf upperExpansions c.toNat with
  | none => exact List.cons_ne_nil _ _
  | some text => exact htable _ (mem_of_expansionOf h)

/-- An offset other than zero is that of a run that covers the code point. -/
theorem Shift.offsetOf_cases (table : List Shift) (n : Nat) :
    offsetOf table n = 0 ∨
      ∃ s ∈ table, s.run.first ≤ n ∧ n ≤ s.run.last ∧ offsetOf table n = s.offset := by
  induction table with
  | nil => exact Or.inl rfl
  | cons s table ih =>
      rw [offsetOf]
      by_cases hlast : n ≤ s.run.last
      · by_cases hcovers : s.run.covers n = true
        · rw [if_pos hlast, if_pos hcovers]
          have hfirst : s.run.first ≤ n := by
            simp only [Run.covers, Bool.and_eq_true, decide_eq_true_eq] at hcovers
            exact hcovers.1.1
          exact Or.inr ⟨s, List.mem_cons_self .., hfirst, hlast, rfl⟩
        · rw [if_pos hlast, if_neg hcovers]
          exact Or.inl rfl
      · rw [if_neg hlast]
        rcases ih with h | ⟨s', hs', h⟩
        · exact Or.inl h
        · exact Or.inr ⟨s', List.mem_cons_of_mem _ hs', h⟩

/-- The small letters of ASCII, by code point. -/
def IsAsciiSmall (c : Char) : Prop :=
  0x61 ≤ c.toNat ∧ c.toNat ≤ 0x7a

theorem offsetOf_upperShifts_of_isAsciiSmall {c : Char} (h : IsAsciiSmall c) :
    Shift.offsetOf upperShifts c.toNat = -32 := by
  obtain ⟨hfirst, hlast⟩ := h
  have hcovers : Run.covers ⟨0x61, 0x7a, 1⟩ c.toNat = true := by
    simp [Run.covers, hfirst, hlast, Nat.mod_one]
  rw [upperShifts, Shift.offsetOf, if_pos hlast, if_pos hcovers]

/-- A number stands for the character of that code point, or for the null character. -/
theorem toNat_ofNat_cases (n : Nat) : (Char.ofNat n).toNat = n ∨ (Char.ofNat n).toNat = 0 := by
  by_cases h : n.isValidChar
  · rw [Char.ofNat, dif_pos h]
    exact Or.inl rfl
  · rw [Char.ofNat, dif_neg h]
    exact Or.inr rfl

/-- An upper case is the character itself, which then is no small letter of ASCII, or it lies outside
of the code points from the underscore to these letters and of those before the capitals. -/
theorem upperOf_cases {c x : Char} (h : x ∈ upperOf c) :
    (x.toNat = 0 ∨ 0x41 ≤ x.toNat) ∧ (x.toNat < 0x5f ∨ 0x7a < x.toNat) ∨
      x = c ∧ ¬IsAsciiSmall c := by
  -- by code point: a search for an instance may go through all characters otherwise
  have hexpansions : ∀ entry ∈ upperExpansions, ∀ n ∈ entry.2.map Char.toNat,
      0x41 ≤ n ∧ (n < 0x5f ∨ 0x7a < n) := by decide
  have hshifts : ∀ s ∈ upperShifts, 0x41 ≤ (s.run.first : Int) + s.offset ∧
      ((s.run.last : Int) + s.offset < 0x5f ∨ 0x7a < (s.run.first : Int) + s.offset) := by
    decide +kernel
  unfold upperOf at h
  cases hexpansion : expansionOf upperExpansions c.toNat with
  | some text =>
      rw [hexpansion, Option.getD_some] at h
      have hx := hexpansions _ (mem_of_expansionOf hexpansion) _ (List.mem_map_of_mem h)
      exact Or.inl (hx.imp_left Or.inr)
  | none =>
      rw [hexpansion, Option.getD_none, List.mem_singleton] at h
      subst h
      by_cases hzero : Shift.offsetOf upperShifts c.toNat = 0
      · have hsmall : ¬IsAsciiSmall c := by
          intro hsmall
          rw [offsetOf_upperShifts_of_isAsciiSmall hsmall] at hzero
          cases hzero
        refine Or.inr ⟨?_, hsmall⟩
        rw [Shift.apply, hzero, Int.add_zero, Int.toNat_natCast, Char.ofNat_toNat]
      · obtain ⟨s, hs, hfirst, hlast, hoffset⟩ :=
          (Shift.offsetOf_cases upperShifts c.toNat).resolve_left hzero
        have hrange := hshifts s hs
        rw [Shift.apply, hoffset]
        rcases toNat_ofNat_cases (Int.toNat (c.toNat + s.offset)) with hx | hx
        · omega
        · omega

end Text

/-! ## Words -/

namespace Naming

open Text

theorem flatten_finish (current : List Char) (others : List Word) :
    (finish current others).flatten = current.reverse ++ others.flatten := by
  cases current <;> rfl

theorem flatten_wordsAfter (current cs : List Char) :
    (wordsAfter current cs).flatten = current.reverse ++ cs.filter isAlphanumeric := by
  fun_induction wordsAfter current cs with
  | case1 current => exact flatten_finish current []
  | case2 c rest hc ih =>
      rw [ih, List.filter_cons, if_pos hc]
      rfl
  | case3 c rest hc previous before hstarts ih =>
      rw [List.flatten_cons, ih, List.filter_cons, if_pos hc]
      rfl
  | case4 c rest hc previous before hstarts ih =>
      rw [ih, List.filter_cons, if_pos hc, List.reverse_cons, List.append_assoc]
      rfl
  | case5 current c rest hc ih =>
      rw [flatten_finish, ih, List.filter_cons, if_neg hc]
      rfl

/-- **The words are the symbol without its separators.** -/
theorem flatten_words (symbol : List Char) :
    (words symbol).flatten = symbol.filter isAlphanumeric :=
  flatten_wordsAfter [] symbol

theorem ne_nil_of_mem_finish {current : List Char} {others : List Word} {w : Word}
    (h : w ∈ finish current others) : w ≠ [] ∨ w ∈ others := by
  cases current with
  | nil => exact Or.inr h
  | cons c current =>
      rcases List.mem_cons.1 h with rfl | h
      · exact Or.inl (List.reverse_ne_nil_iff.2 (List.cons_ne_nil _ _))
      · exact Or.inr h

theorem ne_nil_of_mem_wordsAfter {current cs : List Char} {w : Word}
    (h : w ∈ wordsAfter current cs) : w ≠ [] := by
  fun_induction wordsAfter current cs with
  | case1 current => exact (ne_nil_of_mem_finish h).resolve_right List.not_mem_nil
  | case2 c rest hc ih => exact ih h
  | case3 c rest hc previous before hstarts ih =>
      rcases List.mem_cons.1 h with rfl | h
      · exact List.reverse_ne_nil_iff.2 (List.cons_ne_nil _ _)
      · exact ih h
  | case4 c rest hc previous before hstarts ih => exact ih h
  | case5 current c rest hc ih => exact (ne_nil_of_mem_finish h).elim id ih

/-- No word is empty. -/
theorem ne_nil_of_mem_words {symbol : List Char} {w : Word} (h : w ∈ words symbol) : w ≠ [] :=
  ne_nil_of_mem_wordsAfter h

/-- What a word is made of: letters and digits of the symbol. -/
theorem mem_filter_of_mem_words {symbol : List Char} {w : Word} (hw : w ∈ words symbol) {c : Char}
    (hc : c ∈ w) : c ∈ symbol.filter isAlphanumeric := by
  rw [← flatten_words]
  exact List.mem_flatten.2 ⟨w, hw, hc⟩

theorem mem_of_mem_words {symbol : List Char} {w : Word} (hw : w ∈ words symbol) {c : Char}
    (hc : c ∈ w) : c ∈ symbol :=
  (List.mem_filter.1 (mem_filter_of_mem_words hw hc)).1

theorem isAlphanumeric_of_mem_words {symbol : List Char} {w : Word} (hw : w ∈ words symbol)
    {c : Char} (hc : c ∈ w) : isAlphanumeric c = true :=
  (List.mem_filter.1 (mem_filter_of_mem_words hw hc)).2

/-! ## Names with a word -/

/-- The name has a letter or a digit. -/
def HasWord (name : String) : Prop :=
  ∃ c ∈ name.toList, isAlphanumeric c = true

-- stated by hand: a search for an instance may find one that goes through all characters
instance (name : String) : Decidable (HasWord name) :=
  decidable_of_iff (name.toList.any isAlphanumeric = true) List.any_eq_true

theorem capitalizeWord_ne_nil {w : Word} (h : w ≠ []) : capitalizeWord w ≠ [] := by
  cases w with
  | nil => exact absurd rfl h
  | cons c rest => exact List.append_ne_nil_of_left_ne_nil (upperOf_ne_nil c) rest

theorem toPascalCase_ne_empty {name : String} (h : HasWord name) : toPascalCase name ≠ "" := by
  obtain ⟨c, hc, halphanumeric⟩ := h
  have hflat : c ∈ (words name.toList).flatten := by
    rw [flatten_words]
    exact List.mem_filter.2 ⟨hc, halphanumeric⟩
  obtain ⟨w, hw, -⟩ := List.mem_flatten.1 hflat
  rw [toPascalCase, ne_eq, String.ofList_eq_empty_iff, pascal, List.flatMap_eq_nil_iff]
  exact fun hnil => capitalizeWord_ne_nil (ne_nil_of_mem_words hw) (hnil w hw)

/-! ## Pascal case -/

/-- A separator that is the upper case of no other character is not in Pascal case. -/
theorem notMem_pascal_of_separator {x : Char} (hseparator : isAlphanumeric x ≠ true)
    (hupper : ∀ c, x ∈ upperOf c → x = c) (symbol : List Char) : x ∉ pascal symbol := by
  intro h
  obtain ⟨w, hw, h⟩ := List.mem_flatMap.1 h
  have halphanumeric : ∀ c ∈ w, isAlphanumeric c = true := fun c => isAlphanumeric_of_mem_words hw
  cases w with
  | nil => cases h
  | cons c rest =>
      rcases List.mem_append.1 h with h | h
      · obtain rfl := hupper c h
        exact hseparator (halphanumeric _ (List.mem_cons_self ..))
      · exact hseparator (halphanumeric _ (List.mem_cons_of_mem _ h))

/-- There is no underscore in Pascal case. -/
theorem underscore_notMem_pascal (symbol : List Char) : '_' ∉ pascal symbol := by
  refine notMem_pascal_of_separator (by decide) ?_ symbol
  intro c hc
  rcases upperOf_cases hc with ⟨-, houtside⟩ | ⟨hself, -⟩
  · exact absurd houtside (by decide)
  · exact hself

/-- There is no dot in Pascal case. -/
theorem dot_notMem_pascal (symbol : List Char) : '.' ∉ pascal symbol := by
  refine notMem_pascal_of_separator (by decide) ?_ symbol
  intro c hc
  rcases upperOf_cases hc with ⟨houtside, -⟩ | ⟨hself, -⟩
  · exact absurd houtside (by decide)
  · exact hself

theorem underscore_notMem_toPascalCase (name : String) : '_' ∉ (toPascalCase name).toList := by
  rw [toPascalCase, String.toList_ofList]
  exact underscore_notMem_pascal _

theorem dot_notMem_toPascalCase (name : String) : '.' ∉ (toPascalCase name).toList := by
  rw [toPascalCase, String.toList_ofList]
  exact dot_notMem_pascal _

/-- Pascal case does not begin with a small letter of ASCII. -/
theorem not_isAsciiSmall_of_pascal {symbol rest : List Char} {x : Char}
    (h : pascal symbol = x :: rest) : ¬IsAsciiSmall x := by
  unfold pascal at h
  cases hwords : words symbol with
  | nil =>
      rw [hwords] at h
      cases h
  | cons w ws =>
      obtain ⟨c, w, rfl⟩ := List.exists_cons_of_ne_nil
        (ne_nil_of_mem_words (hwords ▸ List.mem_cons_self .. : w ∈ words symbol))
      obtain ⟨y, upper, hupper⟩ := List.exists_cons_of_ne_nil (upperOf_ne_nil c)
      rw [hwords, List.flatMap_cons, capitalizeWord, hupper] at h
      obtain rfl : y = x := (List.cons.inj h).1
      have hcases := upperOf_cases (hupper ▸ List.mem_cons_self .. : y ∈ upperOf c)
      rintro ⟨hfirst, hlast⟩
      rcases hcases with ⟨-, houtside⟩ | ⟨rfl, hsmall⟩
      · omega
      · exact hsmall ⟨hfirst, hlast⟩

end Naming

end ClientGen
