import ClientGen.Proofs.Words

/-!
# The tables of characters on ASCII

The tables of letters, digits and case cover all of Unicode.  On the characters of ASCII they say
what the library says of them.

* `Text.append_inj_of_run` — where the characters of a kind end that a text begins with.
* `Text.forall_ascii`, `Text.followsAscii` — one check of all code points below 128.
* `Text.lowercase_of_ascii` — lower casing a text character by character.
* `Text.IsPlain` — small letters and digits, the characters of a word in lower case.
* `Text.hasCases` — the lower case and the upper case of letters and digits.
* `Text.toUpper_of_isLower` — a small letter and its capital.
-/

namespace ClientGen.Text

/-- A text can be split in one way only into characters of a kind and a rest that does not begin with
one. -/
theorem append_inj_of_run {p : Char → Bool} {run run' rest rest' : List Char}
    (hrun : ∀ x ∈ run, p x = true) (hrun' : ∀ x ∈ run', p x = true)
    (hrest : ∀ x ∈ rest.head?, p x = false) (hrest' : ∀ x ∈ rest'.head?, p x = false)
    (h : run ++ rest = run' ++ rest') : run = run' ∧ rest = rest' := by
  have htake : ∀ run rest : List Char, (∀ x ∈ run, p x = true) →
      (∀ x ∈ rest.head?, p x = false) → (run ++ rest).takeWhile p = run := by
    intro run rest hrun hrest
    rw [List.takeWhile_append_of_pos hrun]
    cases rest with
    | nil => simp
    | cons x rest => simp [hrest x rfl]
  have heq : run = run' := by rw [← htake run rest hrun hrest, h, htake run' rest' hrun' hrest']
  subst heq
  exact ⟨rfl, List.append_cancel_left h⟩

/-! ## ASCII -/

/-- A property of characters need only be checked for the code points of ASCII. -/
theorem forall_ascii {P : Char → Prop} (h : ∀ n < 128, P (Char.ofNat n)) :
    ∀ c : Char, c.toNat < 128 → P c := by
  intro c hc
  have hchar := h c.toNat hc
  rwa [Char.ofNat_toNat] at hchar

/-- The tables say of the character what the library says of the characters of ASCII. -/
structure FollowsAscii (c : Char) : Prop where
  isUpper : isUpper c = c.isUpper
  isLower : isLower c = c.isLower
  isAlphanumeric : isAlphanumeric c = c.isAlphanum
  upperOf : upperOf c = [c.toUpper]
  lowerOf : lowerOf c = [c.toLower]

theorem followsAscii {c : Char} (hc : c.toNat < 128) : FollowsAscii c := by
  have htables : ∀ c : Char, c.toNat < 128 → isUpper c = c.isUpper ∧ isLower c = c.isLower ∧
      isAlphanumeric c = c.isAlphanum ∧ upperOf c = [c.toUpper] ∧ lowerOf c = [c.toLower] :=
    forall_ascii (by decide +kernel)
  obtain ⟨hupper, hlower, halphanumeric, hupperOf, hlowerOf⟩ := htables c hc
  exact ⟨hupper, hlower, halphanumeric, hupperOf, hlowerOf⟩

/-- Lower casing a text of ASCII takes one character at a time. -/
theorem lowerAfter_of_ascii {cs : List Char} (h : ∀ c ∈ cs, c.toNat < 128) (before : List Char) :
    lowerAfter before cs = cs.map Char.toLower := by
  induction cs generalizing before with
  | nil => rfl
  | cons c cs ih =>
      have hc : c.toNat < 128 := h c (List.mem_cons_self ..)
      have hsigma : c ≠ 'Σ' := by
        rintro rfl
        revert hc
        decide
      rw [lowerAfter, if_neg hsigma, (followsAscii hc).lowerOf,
        ih (fun x hx => h x (List.mem_cons_of_mem _ hx)), List.map_cons, List.singleton_append]

theorem lowercase_of_ascii {cs : List Char} (h : ∀ c ∈ cs, c.toNat < 128) :
    lowercase cs = cs.map Char.toLower :=
  lowerAfter_of_ascii h []

/-! ## Code points -/

theorem isLower_iff_toNat {c : Char} : c.isLower = true ↔ 0x61 ≤ c.toNat ∧ c.toNat ≤ 0x7a := by
  show (decide ('a'.val ≤ c.val) && decide (c.val ≤ 'z'.val)) = true ↔ _
  simp [UInt32.le_iff_toNat_le]

theorem isUpper_iff_toNat {c : Char} : c.isUpper = true ↔ 0x41 ≤ c.toNat ∧ c.toNat ≤ 0x5a := by
  show decide ('A'.val ≤ c.val ∧ c.val ≤ 'Z'.val) = true ↔ _
  simp [UInt32.le_iff_toNat_le]

theorem isDigit_iff_toNat {c : Char} : c.isDigit = true ↔ 0x30 ≤ c.toNat ∧ c.toNat ≤ 0x39 := by
  simp [Char.isDigit, UInt32.le_iff_toNat_le]

/-! ## Small letters and digits -/

/-- A small letter or a digit of ASCII. -/
def IsPlain (c : Char) : Prop :=
  c.isLower = true ∨ c.isDigit = true

instance (c : Char) : Decidable (IsPlain c) :=
  inferInstanceAs (Decidable (c.isLower = true ∨ c.isDigit = true))

namespace IsPlain

variable {c : Char}

theorem toNat_lt (h : IsPlain c) : c.toNat < 128 := by
  simp only [IsPlain, isLower_iff_toNat, isDigit_iff_toNat] at h
  omega

theorem isAlphanum (h : IsPlain c) : c.isAlphanum = true := by
  show ((c.isUpper || c.isLower) || c.isDigit) = true
  rcases h with hlower | hdigit
  · simp [hlower]
  · simp [hdigit]

theorem isAlphanumeric (h : IsPlain c) : isAlphanumeric c = true := by
  rw [(followsAscii h.toNat_lt).isAlphanumeric, h.isAlphanum]

theorem isUpper (h : IsPlain c) : isUpper c = false := by
  rw [(followsAscii h.toNat_lt).isUpper, Bool.eq_false_iff, ne_eq, isUpper_iff_toNat]
  simp only [IsPlain, isLower_iff_toNat, isDigit_iff_toNat] at h
  omega

theorem toLower (h : IsPlain c) : c.toLower = c := by
  have htable : ∀ c : Char, c.toNat < 128 → IsPlain c → c.toLower = c :=
    forall_ascii (by decide +kernel)
  exact htable c h.toNat_lt h

end IsPlain

/-! ## Letters and digits -/

section LettersAndDigits

variable {c : Char}

theorem toNat_lt_of_isAlphanum (h : c.isAlphanum = true) : c.toNat < 128 := by
  have hkinds : ((c.isUpper || c.isLower) || c.isDigit) = true := h
  simp only [Bool.or_eq_true, isUpper_iff_toNat, isLower_iff_toNat, isDigit_iff_toNat] at hkinds
  omega

theorem isAlphanumeric_of_isAlphanum (h : c.isAlphanum = true) : isAlphanumeric c = true := by
  rw [(followsAscii (toNat_lt_of_isAlphanum h)).isAlphanumeric, h]

theorem isPlain_or_isUpper (h : c.isAlphanum = true) : IsPlain c ∨ isUpper c = true := by
  have hkinds : ((c.isUpper || c.isLower) || c.isDigit) = true := h
  rw [(followsAscii (toNat_lt_of_isAlphanum h)).isUpper]
  simp only [Bool.or_eq_true] at hkinds
  rcases hkinds with (hupper | hlower) | hdigit
  · exact Or.inr hupper
  · exact Or.inl (Or.inl hlower)
  · exact Or.inl (Or.inr hdigit)

/-- The two cases of a letter or a digit. -/
structure HasCases (c : Char) : Prop where
  isPlain_toLower : IsPlain c.toLower
  isAlphanum_toUpper : c.toUpper.isAlphanum = true
  toUpper_toUpper : c.toUpper.toUpper = c.toUpper
  toUpper_of_isUpper : c.isUpper = true → c.toUpper = c

theorem hasCases (h : c.isAlphanum = true) : HasCases c := by
  have htable : ∀ c : Char, c.toNat < 128 → c.isAlphanum = true →
      IsPlain c.toLower ∧ c.toUpper.isAlphanum = true ∧ c.toUpper.toUpper = c.toUpper ∧
        (c.isUpper = true → c.toUpper = c) :=
    forall_ascii (by decide +kernel)
  obtain ⟨hlower, hupper, htwice, hcapital⟩ := htable c (toNat_lt_of_isAlphanum h) h
  exact ⟨hlower, hupper, htwice, hcapital⟩

end LettersAndDigits

/-! ## Capitals -/

section Capitals

variable {c : Char}

/-- A small letter and its capital. -/
theorem toUpper_of_isLower (h : c.isLower = true) :
    c.toUpper.toNat < 128 ∧ c.toUpper.isUpper = true ∧ c.toUpper.toLower = c := by
  have htable : ∀ c : Char, c.toNat < 128 → c.isLower = true →
      c.toUpper.toNat < 128 ∧ c.toUpper.isUpper = true ∧ c.toUpper.toLower = c :=
    forall_ascii (by decide +kernel)
  exact htable c (IsPlain.toNat_lt (Or.inl h)) h

theorem upperOf_of_isLower (h : c.isLower = true) : upperOf c = [c.toUpper] :=
  (followsAscii (IsPlain.toNat_lt (Or.inl h))).upperOf

theorem isUpper_toUpper (h : c.isLower = true) : isUpper c.toUpper = true := by
  obtain ⟨hlt, hupper, -⟩ := toUpper_of_isLower h
  rw [(followsAscii hlt).isUpper, hupper]

theorem isAlphanumeric_toUpper (h : c.isLower = true) : isAlphanumeric c.toUpper = true :=
  isAlphanumeric_of_isAlphanum (hasCases (IsPlain.isAlphanum (Or.inl h))).isAlphanum_toUpper

end Capitals

end ClientGen.Text
