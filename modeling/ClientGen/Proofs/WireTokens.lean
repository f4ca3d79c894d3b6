import ClientGen.Wire.Record
import ClientGen.Wire.Spelling
import Mathlib.Tactic.Ring

/-!
# Tokens are read as they are spelled

An integer is read from all the bytes that spell it, up to ten, and from these only the bytes that
belong to it are taken; the same is then true of a token and of a list of tokens.  What a writer
writes is one of these spellings.

* `Wire.readVarint_of_spells`, `Wire.readToken_of_spells`, `Wire.tokens_of_spells` — what is spelled
  is read.
* `Wire.spells_digits`, `Wire.spellsTokens_bytes` — what is written is spelled.
* `Wire.readInt32s_of_spells`, `Wire.spellsIntegers_pack` — the same of packed integers.
-/

namespace ClientGen.Wire

/-! ## Integers -/

/-- A number is read from the bytes that spell it. -/
theorem readDigits_of_spells {n : Nat} {bytes : List UInt8} (h : Spells n bytes) {count : Nat}
    (hcount : bytes.length ≤ count) (rest : List UInt8) :
    readDigits count (bytes ++ rest) = some (n, rest) := by
  induction h generalizing count with
  | last hb =>
      cases count with
      | zero => cases hcount
      | succ count => simp [readDigits, hb]
  | more hb _ ih =>
      cases count with
      | zero => cases hcount
      | succ count =>
          have hrest := ih (Nat.le_of_succ_le_succ hcount)
          simp [readDigits, hb, hrest]

/-- **An integer is read from all the bytes that spell it.** -/
theorem readVarint_of_spells {n : UInt64} {bytes : List UInt8} (h : SpellsVarint n bytes)
    (rest : List UInt8) : readVarint (bytes ++ rest) = some (n, rest) := by
  have hlt : n.toNat < Nat.pow 2 64 := n.toNat_lt
  rw [readVarint, readDigits_of_spells h.spells h.length]
  simp only [hlt, if_true, UInt64.ofNat_toNat]

theorem Spells.ne_nil {n : Nat} {bytes : List UInt8} (h : Spells n bytes) : bytes ≠ [] := by
  cases h <;> exact List.cons_ne_nil _ _

/-- The shortest spelling of a number. -/
theorem spells_digits (n : Nat) : Spells n (digits n) := by
  induction n using digits.induct with
  | case1 n hn =>
      have hbyte : (UInt8.ofNat n).toNat = n := Nat.mod_eq_of_lt (by omega)
      have hlt : UInt8.ofNat n < 128 := by
        rw [UInt8.lt_iff_toNat_lt, hbyte]
        exact hn
      rw [digits, dif_pos hn]
      have hlast := Spells.last hlt
      rwa [hbyte] at hlast
  | case2 n hn ih =>
      have hbyte : (UInt8.ofNat (128 + n % 128)).toNat = 128 + n % 128 :=
        Nat.mod_eq_of_lt (by omega)
      have hlt : ¬UInt8.ofNat (128 + n % 128) < 128 := by
        rw [UInt8.lt_iff_toNat_lt, hbyte]
        exact Nat.not_lt.2 (Nat.le_add_right 128 _)
      rw [digits, dif_neg hn]
      have hmore := Spells.more hlt ih
      rwa [hbyte, Nat.add_sub_cancel_left, Nat.mod_add_div] at hmore

theorem length_digits_le {k n : Nat} (h : n < 128 ^ (k + 1)) : (digits n).length ≤ k + 1 := by
  induction k generalizing n with
  | zero =>
      rw [digits, dif_pos (by simpa using h)]
      exact Nat.le_refl 1
  | succ k ih =>
      rw [digits]
      split
      · exact Nat.succ_le_succ (Nat.zero_le _)
      · have hdiv : n / 128 < 128 ^ (k + 1) :=
          Nat.div_lt_of_lt_mul (by rwa [pow_succ, mul_comm] at h)
        exact Nat.succ_le_succ (ih hdiv)

theorem spellsVarint_varint (n : UInt64) : SpellsVarint n (varint n) := by
  refine ⟨spells_digits n.toNat, ?_⟩
  have hlt : n.toNat < 2 ^ 64 := n.toNat_lt
  have hpow : (2 : Nat) ^ 64 ≤ 128 ^ (9 + 1) := by decide
  exact length_digits_le (Nat.lt_of_lt_of_le hlt hpow)

/-! ## Tokens -/

theorem takeBytes_append (payload rest : List UInt8) :
    takeBytes payload.length (payload ++ rest) = some (payload, rest) := by
  simp [takeBytes]

theorem readPayload_of_spells {token : Token} {payload : List UInt8}
    (h : SpellsPayload token payload) (rest : List UInt8) :
    readPayload token.wireType (payload ++ rest) = some (token, rest) := by
  cases h with
  | varint hn => simp [readPayload, Token.wireType, readVarint_of_spells hn]
  | fixed64 hlength =>
      have htake := takeBytes_append payload rest
      rw [hlength] at htake
      simp [readPayload, Token.wireType, htake]
  | block hn hlength =>
      simp [readPayload, Token.wireType, readVarint_of_spells hn, hlength, takeBytes_append]
  | openGroup => rfl
  | closeGroup => rfl
  | fixed32 hlength =>
      have htake := takeBytes_append payload rest
      rw [hlength] at htake
      simp [readPayload, Token.wireType, htake]

theorem wireType_lt (token : Token) : token.wireType < 8 := by
  cases token <;> simp [Token.wireType]

/-- **A token is read from all the bytes that spell it.** -/
theorem readToken_of_spells {number : Nat} {token : Token} {key payload : List UInt8}
    (hpos : 0 < number) (hlt : number < Nat.pow 2 29)
    (hkey : SpellsVarint (UInt64.ofNat (8 * number + token.wireType)) key)
    (hpayload : SpellsPayload token payload) (rest : List UInt8) :
    readToken (key ++ payload ++ rest) = some ((number, token), rest) := by
  have hwire := wireType_lt token
  have hbound : 8 * number + token.wireType < Nat.pow 2 32 := by
    have hpow : 8 * Nat.pow 2 29 = Nat.pow 2 32 := by decide
    omega
  have hsmall : 8 * number + token.wireType < 2 ^ 64 :=
    Nat.lt_trans hbound (by decide)
  have hnat : (UInt64.ofNat (8 * number + token.wireType)).toNat = 8 * number + token.wireType :=
    Nat.mod_eq_of_lt hsmall
  have hnumber : (8 * number + token.wireType) / 8 = number := by omega
  have hmod : (8 * number + token.wireType) % 8 = token.wireType := by omega
  rw [readToken, List.append_assoc, readVarint_of_spells hkey]
  simp only [hnat, hnumber, hmod, hbound, hpos, and_self, if_true,
    readPayload_of_spells hpayload, Option.map_some]

theorem readTokens_of_spells {tokens : List (Nat × Token)} {bytes : List UInt8}
    (h : SpellsTokens tokens bytes) {count : Nat} (hcount : bytes.length ≤ count) :
    readTokens count bytes = some tokens := by
  induction h generalizing count with
  | nil => cases count <;> rfl
  | @cons number token tokens key payload bytes hpos hlt hkey hpayload _ ih =>
      obtain ⟨b, more, rfl⟩ := List.exists_cons_of_ne_nil hkey.spells.ne_nil
      have hread := readToken_of_spells hpos hlt hkey hpayload bytes
      cases count with
      | zero => cases hcount
      | succ count =>
          have hrest : bytes.length ≤ count := by
            simp only [List.cons_append, List.length_cons, List.length_append] at hcount
            omega
          simp only [List.cons_append] at hread ⊢
          rw [readTokens, hread]
          · simp only [ih hrest, Option.map_some]
          · exact List.cons_ne_nil _ _

/-- **The tokens that some bytes spell are read from them.** -/
theorem tokens_of_spells {fields : List (Nat × Token)} {bytes : List UInt8}
    (h : SpellsTokens fields bytes) : tokens bytes = some fields :=
  readTokens_of_spells h (Nat.le_refl _)

theorem SpellsTokens.append {fields fields' : List (Nat × Token)} {bytes bytes' : List UInt8}
    (h : SpellsTokens fields bytes) (h' : SpellsTokens fields' bytes') :
    SpellsTokens (fields ++ fields') (bytes ++ bytes') := by
  induction h with
  | nil => exact h'
  | cons hpos hlt hkey hpayload _ ih =>
      rw [List.cons_append, List.append_assoc]
      exact .cons hpos hlt hkey hpayload ih

/-- The token can be written: its payload has the length that it is to have. -/
def Token.Writable : Token → Prop
  | .fixed64 payload => payload.length = 8
  | .fixed32 payload => payload.length = 4
  | .block payload => payload.length < 2 ^ 64
  | _ => True

instance : DecidablePred Token.Writable
  | .fixed64 payload => inferInstanceAs (Decidable (payload.length = 8))
  | .fixed32 payload => inferInstanceAs (Decidable (payload.length = 4))
  | .block payload => inferInstanceAs (Decidable (payload.length < 2 ^ 64))
  | .varint _ | .openGroup | .closeGroup => inferInstanceAs (Decidable True)

theorem spellsPayload_payload {token : Token} (h : token.Writable) :
    SpellsPayload token token.payload := by
  cases token with
  | varint n => exact .varint (spellsVarint_varint n)
  | fixed64 payload => exact .fixed64 h
  | block payload =>
      have hlength : (UInt64.ofNat payload.length).toNat = payload.length := Nat.mod_eq_of_lt h
      have hbytes := spellsVarint_varint (UInt64.ofNat payload.length)
      rw [varint, hlength] at hbytes
      exact .block hbytes hlength
  | openGroup => exact .openGroup
  | closeGroup => exact .closeGroup
  | fixed32 payload => exact .fixed32 h

/-- What is written for a token spells it. -/
theorem spellsTokens_bytes {number : Nat} {token : Token} (hpos : 0 < number)
    (hlt : number < Nat.pow 2 29) (h : token.Writable) :
    SpellsTokens [(number, token)] (token.bytes number) := by
  have hbound : 8 * number + token.wireType < 2 ^ 64 := by
    have hwire := wireType_lt token
    have hpow : 8 * Nat.pow 2 29 ≤ 2 ^ 64 := by decide
    omega
  have hnat : (UInt64.ofNat (8 * number + token.wireType)).toNat = 8 * number + token.wireType :=
    Nat.mod_eq_of_lt hbound
  have hkey := spellsVarint_varint (UInt64.ofNat (8 * number + token.wireType))
  rw [varint, hnat] at hkey
  have hcons := SpellsTokens.cons hpos hlt hkey (spellsPayload_payload h) .nil
  rwa [List.append_nil] at hcons

/-! ## Packed integers -/

/-- An integer is as it was before it was widened. -/
theorem toInt32_widen (n : Int32) : toInt32 (widen n) = n := by
  refine Eq.trans ?_ (Int32.toInt32_toInt64 n)
  apply Int32.toBitVec_inj.1
  exact (BitVec.signExtend_eq_setWidth_of_le n.toInt64.toBitVec (by decide)).symm

theorem readInt32s_of_spells {ns : List Int32} {bytes : List UInt8} (h : SpellsIntegers ns bytes)
    {count : Nat} (hcount : bytes.length ≤ count) : readInt32s count bytes = some ns := by
  induction h generalizing count with
  | nil => cases count <;> rfl
  | @cons n ns bytes rest hn _ ih =>
      obtain ⟨b, more, rfl⟩ := List.exists_cons_of_ne_nil hn.spells.ne_nil
      have hread := readVarint_of_spells hn rest
      cases count with
      | zero => cases hcount
      | succ count =>
          have hrest : rest.length ≤ count := by
            simp only [List.cons_append, List.length_cons, List.length_append] at hcount
            omega
          simp only [List.cons_append] at hread ⊢
          rw [readInt32s, hread]
          · simp only [ih hrest, Option.map_some, toInt32_widen]
          · exact List.cons_ne_nil _ _

theorem spellsIntegers_pack (ns : List Int32) : SpellsIntegers ns (pack ns) := by
  induction ns with
  | nil => exact .nil
  | cons n ns ih => exact .cons (spellsVarint_varint (widen n)) ih

end ClientGen.Wire
