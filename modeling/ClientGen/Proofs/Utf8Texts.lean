import ClientGen.Text.Utf8
import Mathlib.Data.List.Basic

/-!
# Every text survives being written as bytes

* `Text.Utf8.head_digits` — a leading byte and the continuation bytes that it asks for are read as
  the character that their bits make up.
* `Text.Utf8.head_encodeChar` — the bytes of a character are read as that character, whatever
  follows.
* `Text.Utf8.decode?_encode` — the bytes of a text are read as that text.
-/

namespace ClientGen.Text.Utf8

/-! ## Bytes as numbers -/

theorem toNat_byte {n : Nat} (h : n < 256) : (UInt8.ofNat n).toNat = n := by
  rw [UInt8.toNat_ofNat']
  exact Nat.mod_eq_of_lt h

/-- Which bytes follow a leading byte, by its number. -/
theorem following_eq (lead : UInt8) :
    following lead =
      if 0xc2 ≤ lead.toNat ∧ lead.toNat ≤ 0xdf then some (1, 0x80, 0xbf)
      else if lead.toNat = 0xe0 then some (2, 0xa0, 0xbf)
      else if lead.toNat = 0xed then some (2, 0x80, 0x9f)
      else if 0xe1 ≤ lead.toNat ∧ lead.toNat ≤ 0xef then some (2, 0x80, 0xbf)
      else if lead.toNat = 0xf0 then some (3, 0x90, 0xbf)
      else if 0xf1 ≤ lead.toNat ∧ lead.toNat ≤ 0xf3 then some (3, 0x80, 0xbf)
      else if lead.toNat = 0xf4 then some (3, 0x80, 0x8f)
      else none := by
  simp [following, UInt8.le_iff_toNat_le, ← UInt8.toNat_inj]

theorem lt_eighty_iff (b : UInt8) : b < 0x80 ↔ b.toNat < 128 :=
  UInt8.lt_iff_toNat_lt

/-- The continuation bytes that hold some groups of six bits. -/
def continuation (digits : List Nat) : List UInt8 :=
  digits.map fun n => UInt8.ofNat (n + 128)

/-- The number that some groups of six bits make up behind the first bits. -/
def joined (value : Nat) (digits : List Nat) : Nat :=
  digits.foldl (fun value n => value * 64 + n) value

theorem addBits_byte {n : Nat} (h : n < 64) (value : Nat) :
    addBits value (UInt8.ofNat (n + 128)) = value * 64 + n := by
  rw [addBits, toNat_byte (by omega)]
  omega

theorem continueHead_digits {digits : List Nat} (h : ∀ n ∈ digits, n < 64) (value read : Nat)
    (rest : List UInt8) :
    continueHead value read digits.length (continuation digits ++ rest)
      = .char (Char.ofNat (joined value digits)) (read + digits.length) := by
  induction digits generalizing value read with
  | nil => rfl
  | cons n digits ih =>
      have hn := h n (List.mem_cons_self ..)
      have hcontinues : isContinuation (UInt8.ofNat (n + 128)) = true := by
        have hbyte := toNat_byte (show n + 128 < 256 by omega)
        have hlow : (0x80 : UInt8).toNat ≤ n + 128 := Nat.le_add_left ..
        have hhigh : n + 128 ≤ (0xbf : UInt8).toNat :=
          Nat.le_of_lt_succ (Nat.add_lt_add_right hn 128)
        simp only [isContinuation, UInt8.le_iff_toNat_le, hbyte, hlow, hhigh, decide_true,
          Bool.and_self]
      rw [continuation, List.map_cons, List.cons_append, List.length_cons, continueHead,
        if_pos hcontinues, addBits_byte hn, ← continuation,
        ih fun m hm => h m (List.mem_cons_of_mem _ hm), Nat.add_right_comm, Nat.add_assoc]
      rfl

/-- **A leading byte and the continuation bytes that it asks for are read as a character**, if the
first of these is in the range that the leading byte allows. -/
theorem head_digits {lead low high : UInt8} {n : Nat} {digits : List Nat}
    (hdigits : ∀ m ∈ n :: digits, m < 64) (hlead : 128 ≤ lead.toNat)
    (hfollowing : following lead = some (digits.length + 1, low, high))
    (hlow : low.toNat ≤ n + 128) (hhigh : n + 128 ≤ high.toNat) (rest : List UInt8) :
    head lead (continuation (n :: digits) ++ rest)
      = .char (Char.ofNat (joined (leadBits (digits.length + 1) lead) (n :: digits)))
          (digits.length + 2) := by
  have hn := hdigits n (List.mem_cons_self ..)
  have hmany : ¬lead < 0x80 := fun h => by
    have := (lt_eighty_iff lead).1 h
    omega
  have hbyte := toNat_byte (show n + 128 < 256 by omega)
  have hrange : (low ≤ UInt8.ofNat (n + 128) && UInt8.ofNat (n + 128) ≤ high) = true := by
    simp only [UInt8.le_iff_toNat_le, hbyte, hlow, hhigh, decide_true, Bool.and_self]
  rw [continuation, List.map_cons, List.cons_append, head, if_neg hmany, hfollowing]
  simp only [hrange, if_true, addBits_byte hn, Nat.add_sub_cancel]
  rw [← continuation, continueHead_digits fun m hm => hdigits m (List.mem_cons_of_mem _ hm),
    Nat.add_comm 2]
  rfl

/-! ## Characters -/

/-- The number of a character is that of no surrogate. -/
theorem toNat_valid (c : Char) :
    c.toNat < 0xd800 ∨ (0xdfff < c.toNat ∧ c.toNat < 0x110000) :=
  c.valid

/-- The number of a character that needs two bytes. -/
theorem head_two {v : Nat} (hmin : 0x80 ≤ v) (hmax : v ≤ 0x7ff) (rest : List UInt8) :
    head (UInt8.ofNat (v / 64 % 32 + 192)) (continuation [v % 64] ++ rest)
      = .char (Char.ofNat v) 2 := by
  have hlead := toNat_byte (show v / 64 % 32 + 192 < 256 by omega)
  have hfollowing : following (UInt8.ofNat (v / 64 % 32 + 192)) = some (1, 0x80, 0xbf) := by
    rw [following_eq, hlead, if_pos (by omega)]
  have hdigits : ∀ m ∈ [v % 64], m < 64 := by
    simpa using Nat.mod_lt v (by decide : 0 < 64)
  have hhigh : v % 64 + 128 ≤ (0xbf : UInt8).toNat := by
    change v % 64 + 128 ≤ 191
    omega
  have hvalue : joined (leadBits 1 (UInt8.ofNat (v / 64 % 32 + 192))) [v % 64] = v := by
    rw [leadBits, hlead]
    change (v / 64 % 32 + 192) % 32 * 64 + v % 64 = v
    omega
  rw [head_digits hdigits (by omega) hfollowing (Nat.le_add_left ..) hhigh]
  exact congrArg (Head.char · 2) (congrArg Char.ofNat hvalue)

/-- The number of a character that needs three bytes.  It is no surrogate. -/
theorem head_three {v : Nat} (hmin : 0x800 ≤ v) (hmax : v ≤ 0xffff)
    (hvalid : v < 0xd800 ∨ 0xdfff < v) (rest : List UInt8) :
    head (UInt8.ofNat (v / 4096 % 16 + 224)) (continuation [v / 64 % 64, v % 64] ++ rest)
      = .char (Char.ofNat v) 3 := by
  have hlead := toNat_byte (show v / 4096 % 16 + 224 < 256 by omega)
  obtain ⟨low, high, hfollowing, hlow, hhigh⟩ :
      ∃ low high, following (UInt8.ofNat (v / 4096 % 16 + 224)) = some (2, low, high) ∧
        low.toNat ≤ v / 64 % 64 + 128 ∧ v / 64 % 64 + 128 ≤ high.toNat := by
    rw [following_eq, hlead, if_neg (by omega)]
    by_cases hfirst : v / 4096 % 16 + 224 = 0xe0
    · rw [if_pos hfirst]
      refine ⟨_, _, rfl, ?_⟩
      change 160 ≤ v / 64 % 64 + 128 ∧ v / 64 % 64 + 128 ≤ 191
      omega
    · rw [if_neg hfirst]
      by_cases hsurrogates : v / 4096 % 16 + 224 = 0xed
      · rw [if_pos hsurrogates]
        refine ⟨_, _, rfl, ?_⟩
        change 128 ≤ v / 64 % 64 + 128 ∧ v / 64 % 64 + 128 ≤ 159
        omega
      · rw [if_neg hsurrogates, if_pos (by omega)]
        refine ⟨_, _, rfl, ?_⟩
        change 128 ≤ v / 64 % 64 + 128 ∧ v / 64 % 64 + 128 ≤ 191
        omega
  have hdigits : ∀ m ∈ [v / 64 % 64, v % 64], m < 64 := by
    simp only [List.mem_cons, List.not_mem_nil, or_false, forall_eq_or_imp, forall_eq]
    omega
  have hvalue : joined (leadBits 2 (UInt8.ofNat (v / 4096 % 16 + 224))) [v / 64 % 64, v % 64]
      = v := by
    rw [leadBits, hlead]
    change ((v / 4096 % 16 + 224) % 16 * 64 + v / 64 % 64) * 64 + v % 64 = v
    omega
  rw [head_digits hdigits (by omega) hfollowing hlow hhigh]
  exact congrArg (Head.char · 3) (congrArg Char.ofNat hvalue)

/-- The number of a character that needs four bytes. -/
theorem head_four {v : Nat} (hmin : 0x10000 ≤ v) (hmax : v < 0x110000) (rest : List UInt8) :
    head (UInt8.ofNat (v / 262144 % 8 + 240))
        (continuation [v / 4096 % 64, v / 64 % 64, v % 64] ++ rest)
      = .char (Char.ofNat v) 4 := by
  have hlead := toNat_byte (show v / 262144 % 8 + 240 < 256 by omega)
  obtain ⟨low, high, hfollowing, hlow, hhigh⟩ :
      ∃ low high, following (UInt8.ofNat (v / 262144 % 8 + 240)) = some (3, low, high) ∧
        low.toNat ≤ v / 4096 % 64 + 128 ∧ v / 4096 % 64 + 128 ≤ high.toNat := by
    rw [following_eq, hlead, if_neg (by omega), if_neg (by omega), if_neg (by omega),
      if_neg (by omega)]
    by_cases hfirst : v / 262144 % 8 + 240 = 0xf0
    · rw [if_pos hfirst]
      refine ⟨_, _, rfl, ?_⟩
      change 144 ≤ v / 4096 % 64 + 128 ∧ v / 4096 % 64 + 128 ≤ 191
      omega
    · rw [if_neg hfirst]
      by_cases hmiddle : 0xf1 ≤ v / 262144 % 8 + 240 ∧ v / 262144 % 8 + 240 ≤ 0xf3
      · rw [if_pos hmiddle]
        refine ⟨_, _, rfl, ?_⟩
        change 128 ≤ v / 4096 % 64 + 128 ∧ v / 4096 % 64 + 128 ≤ 191
        omega
      · rw [if_neg hmiddle, if_pos (by omega)]
        refine ⟨_, _, rfl, ?_⟩
        change 128 ≤ v / 4096 % 64 + 128 ∧ v / 4096 % 64 + 128 ≤ 143
        omega
  have hdigits : ∀ m ∈ [v / 4096 % 64, v / 64 % 64, v % 64], m < 64 := by
    simp only [List.mem_cons, List.not_mem_nil, or_false, forall_eq_or_imp, forall_eq]
    omega
  have hvalue : joined (leadBits 3 (UInt8.ofNat (v / 262144 % 8 + 240)))
      [v / 4096 % 64, v / 64 % 64, v % 64] = v := by
    rw [leadBits, hlead]
    change (((v / 262144 % 8 + 240) % 8 * 64 + v / 4096 % 64) * 64 + v / 64 % 64) * 64 + v % 64 = v
    omega
  rw [head_digits hdigits (by omega) hfollowing hlow hhigh]
  exact congrArg (Head.char · 4) (congrArg Char.ofNat hvalue)

/-- **The bytes of a character are read as that character**, and nothing of what follows is. -/
theorem head_encodeChar (c : Char) :
    ∃ lead more, String.utf8EncodeChar c = lead :: more ∧
      ∀ rest, head lead (more ++ rest) = .char c (more.length + 1) := by
  have hvalid := toNat_valid c
  have hchar : Char.ofNat c.toNat = c := Char.ofNat_toNat c
  unfold String.utf8EncodeChar
  rw [Char.toNat_val]
  generalize c.toNat = v at hvalid hchar
  subst hchar
  simp only
  by_cases hone : v ≤ 0x7f
  · rw [if_pos hone]
    refine ⟨_, [], rfl, fun rest => ?_⟩
    have hbyte := toNat_byte (show v < 256 by omega)
    have hlow : UInt8.ofNat v < 0x80 := (lt_eighty_iff _).2 (by omega)
    rw [head, if_pos hlow, hbyte]
    rfl
  by_cases htwo : v ≤ 0x7ff
  · rw [if_neg hone, if_pos htwo]
    exact ⟨_, continuation [v % 64], rfl, head_two (by omega) htwo⟩
  by_cases hthree : v ≤ 0xffff
  · rw [if_neg hone, if_neg htwo, if_pos hthree]
    exact ⟨_, continuation [v / 64 % 64, v % 64], rfl,
      head_three (by omega) hthree (by omega)⟩
  · rw [if_neg hone, if_neg htwo, if_neg hthree]
    exact ⟨_, continuation [v / 4096 % 64, v / 64 % 64, v % 64], rfl,
      head_four (by omega) (by omega)⟩

/-! ## Texts -/

theorem pieces_encode {cs : List Char} {n : Nat}
    (h : (cs.flatMap String.utf8EncodeChar).length ≤ n) :
    pieces n (cs.flatMap String.utf8EncodeChar) = cs.map some := by
  induction cs generalizing n with
  | nil => cases n <;> rfl
  | cons c cs ih =>
      obtain ⟨lead, more, hbytes, hhead⟩ := head_encodeChar c
      rw [List.flatMap_cons, hbytes, List.cons_append] at h ⊢
      obtain ⟨n, rfl⟩ : ∃ m, n = m + 1 := Nat.exists_eq_succ_of_ne_zero (by
        rintro rfl
        cases h)
      rw [List.length_cons, List.length_append] at h
      rw [pieces, hhead]
      simp only [Nat.add_sub_cancel, List.drop_left]
      rw [ih (by omega), List.map_cons]

/-- **The bytes of a text are read as that text.** -/
theorem decode?_encode (s : String) : decode? (encode s) = some s := by
  have hread : (s.toList.map some).mapM id = some s.toList := by
    induction s.toList with
    | nil => rfl
    | cons c cs ih => simp [List.mapM_cons, ih]
  rw [decode?, encode, pieces_encode (Nat.le_refl _), hread, Option.map_some, String.ofList_toList]

end ClientGen.Text.Utf8
