import ClientGen.Proofs.WireTokens
import Mathlib.Data.List.Pairwise

/-!
# A message is read from all its encodings

Fields that a message does not declare are passed over, with the groups that they open, and leave
the value that has been read so far as it is.  Of the fields that it declares, those that fill
different slots of the value can be read in either order.  So it is enough to know what is read from
the declared fields in the order of their numbers.

* `Wire.fold_skippedField`, `Wire.fold_padded` — what is not declared is passed over.
* `Wire.swaps_of_parts`, `Wire.run_congr` — fields that fill different slots can change places.
* `Wire.mergeFields_of_encodes` — what a message is read as.
-/

namespace ClientGen.Wire

variable {α : Type} {limit : Nat} {step : α → Nat → Token → Step α} {value : α}

/-! ## Fields that are skipped -/

/-- Fields that are passed over one by one are passed over together. -/
theorem fold_flatten {groups : List Nat} {fields : List (List (Nat × Token))}
    (h : ∀ field ∈ fields, ∀ rest,
      fold limit step groups value (field ++ rest) = fold limit step groups value rest)
    (rest : List (Nat × Token)) :
    fold limit step groups value (fields.flatten ++ rest) = fold limit step groups value rest := by
  induction fields with
  | nil => rfl
  | cons field fields ih =>
      rw [List.flatten_cons, List.append_assoc, h field (List.mem_cons_self ..)]
      exact ih fun other hother => h other (List.mem_cons_of_mem _ hother)

/-- Inside a group a field is passed over. -/
theorem fold_skippedField_inside {depth number group : Nat} {groups : List Nat}
    {field : List (Nat × Token)} (h : SkippedField depth number field)
    (hdepth : depth + (group :: groups).length ≤ limit) (rest : List (Nat × Token)) :
    fold limit step (group :: groups) value (field ++ rest)
      = fold limit step (group :: groups) value rest := by
  induction depth generalizing number group groups field rest with
  | zero => exact h.elim
  | succ depth ih =>
      have hroom : ¬limit ≤ (group :: groups).length := by omega
      rcases h with ⟨token, htoken, rfl⟩ | ⟨fields, hfields, rfl⟩
      · cases token with
        | openGroup => cases htoken
        | closeGroup => cases htoken
        | _ => simp only [List.singleton_append, fold, if_neg hroom]
      · have hinside : depth + (number :: group :: groups).length ≤ limit := by
          simp only [List.length_cons] at hdepth ⊢
          omega
        have hinner := fold_flatten fun field hfield after =>
          (hfields field hfield).elim fun _ hskipped => ih hskipped hinside after
        simp only [List.cons_append, List.append_assoc, List.nil_append, fold, if_neg hroom,
          hinner, if_true]

/-- **A field that is not declared is passed over.** -/
theorem fold_skippedField {number : Nat} {field : List (Nat × Token)}
    (hunknown : ∀ value token, step value number token = .unknown)
    (h : SkippedField limit number field) (rest : List (Nat × Token)) :
    fold limit step [] value (field ++ rest) = fold limit step [] value rest := by
  cases limit with
  | zero => exact h.elim
  | succ depth =>
      rcases h with ⟨token, htoken, rfl⟩ | ⟨fields, hfields, rfl⟩
      · cases token with
        | openGroup => cases htoken
        | closeGroup => cases htoken
        | _ => simp only [List.singleton_append, fold, hunknown, Nat.succ_ne_zero, if_false]
      · have hinside : depth + [number].length ≤ depth + 1 := Nat.le_refl _
        have hinner : ∀ after, fold (depth + 1) step [number] value (fields.flatten ++ after)
            = fold (depth + 1) step [number] value after :=
          fold_flatten fun field hfield after =>
            (hfields field hfield).elim fun _ hskipped =>
              fold_skippedField_inside hskipped hinside after
        simp only [List.cons_append, List.append_assoc, List.nil_append, fold, hunknown,
          Nat.succ_ne_zero, if_false, hinner, if_true]

/-! ## Fields that are declared -/

/-- The value after a step, if the field is known and of the right shape. -/
def Step.value? : Step α → Option α
  | .ok value => some value
  | _ => none

@[simp] theorem Step.value?_known (result : Option α) : (Step.known result).value? = result := by
  cases result <;> rfl

theorem Step.value?_eq_some_iff {s : Step α} : s.value? = some value ↔ s = .ok value := by
  cases s <;> simp [Step.value?]

/-- What is read from some fields, all of them known. -/
def run (step : α → Nat → Token → Step α) : α → List (Nat × Token) → Option α
  | value, [] => some value
  | value, (number, token) :: fields =>
      (step value number token).value?.bind fun value => run step value fields

theorem run_append (step : α → Nat → Token → Step α) (value : α)
    (fields more : List (Nat × Token)) :
    run step value (fields ++ more)
      = (run step value fields).bind fun value => run step value more := by
  induction fields generalizing value with
  | nil => rfl
  | cons field fields ih =>
      obtain ⟨number, token⟩ := field
      rw [List.cons_append, run, run, Option.bind_assoc]
      exact Option.bind_congr fun value _ => ih value

theorem fold_ok {next : α} {number : Nat} {token : Token} (h : step value number token = .ok next)
    (rest : List (Nat × Token)) :
    fold limit step [] value ((number, token) :: rest) = fold limit step [] next rest := by
  cases token <;> simp only [fold, h]

/-- **What is not declared makes no difference.** -/
theorem fold_padded {declared : List Nat} {known tokens : List (Nat × Token)} {result : α}
    (hunknown : ∀ value number token, number ∉ declared → step value number token = .unknown)
    (h : Padded limit declared known tokens) (hrun : run step value known = some result) :
    fold limit step [] value tokens = some result := by
  induction h generalizing value with
  | nil => exact hrun
  | declared hnumber _ ih =>
      obtain ⟨next, hstep, hrest⟩ := Option.bind_eq_some_iff.1 hrun
      rw [fold_ok (Step.value?_eq_some_iff.1 hstep)]
      exact ih hrest
  | skipped hnumber hfield _ ih =>
      rw [fold_skippedField (fun value token => hunknown value _ token hnumber) hfield]
      exact ih hrun

/-! ## The order of fields -/

/-- Fields with two numbers can be read in either order. -/
def Swaps (step : α → Nat → Token → Step α) (m n : Nat) : Prop :=
  ∀ value s t, ((step value m s).value?.bind fun value => (step value n t).value?)
    = (step value n t).value?.bind fun value => (step value m s).value?

theorem Swaps.symm {m n : Nat} (h : Swaps step m n) : Swaps step n m :=
  fun value s t => (h value t s).symm

/-- Fields that fill different parts of a value, and are read without the part of the other, can be
read in either order. -/
theorem swaps_of_parts {β γ : Type} {m n : Nat} {read : α → Token → Option β}
    {read' : α → Token → Option γ} {put : α → β → α} {put' : α → γ → α}
    (hm : ∀ d t, step d m t = .known ((read d t).map (put d)))
    (hn : ∀ d t, step d n t = .known ((read' d t).map (put' d)))
    (hread : ∀ d y t, read (put' d y) t = read d t)
    (hread' : ∀ d x t, read' (put d x) t = read' d t)
    (hput : ∀ d x y, put' (put d x) y = put (put' d y) x) : Swaps step m n := by
  intro d s t
  simp only [hm, hn, Step.value?_known, Option.bind_map, Function.comp_def, hread, hread']
  cases read d s <;> cases read' d t <;> simp [hput]

/-- A field can be read before others that fill other slots. -/
theorem run_move {number : Nat} {token : Token} {before : List (Nat × Token)}
    (h : ∀ field ∈ before, Swaps step field.1 number) (after : List (Nat × Token)) (value : α) :
    run step value (before ++ (number, token) :: after)
      = run step value ((number, token) :: (before ++ after)) := by
  induction before generalizing value with
  | nil => rfl
  | cons field before ih =>
      obtain ⟨m, s⟩ := field
      have hswap := h (m, s) (List.mem_cons_self ..) value s token
      have hrest := ih fun field hfield => h field (List.mem_cons_of_mem _ hfield)
      simp only [List.cons_append, run] at hrest ⊢
      simp only [hrest, ← Option.bind_assoc, hswap]

/-- **Fields that fill different slots can change places.** -/
theorem run_congr {slot : Nat → Nat} {fields fields' : List (Nat × Token)}
    (hswaps : ∀ a ∈ fields', ∀ b ∈ fields', slot a.1 ≠ slot b.1 → Swaps step a.1 b.1)
    (hsame : ∀ s, fields.filter (slot ·.1 = s) = fields'.filter (slot ·.1 = s)) (value : α) :
    run step value fields = run step value fields' := by
  induction fields generalizing fields' value with
  | nil =>
      cases fields' with
      | nil => rfl
      | cons field fields' =>
          have hnone := hsame (slot field.1)
          simp at hnone
  | cons field fields ih =>
      -- the first field is the first of its slot in the other list
      have hfirst := hsame (slot field.1)
      rw [List.filter_cons_of_pos (by simp)] at hfirst
      obtain ⟨before, after, rfl, hbefore, -, hafter⟩ := List.filter_eq_cons_iff.1 hfirst.symm
      have hmem : field ∈ before ++ field :: after :=
        List.mem_append_right _ (List.mem_cons_self ..)
      have hmove : ∀ other ∈ before, Swaps step other.1 field.1 := by
        intro other hother
        refine hswaps other (List.mem_append_left _ hother) field hmem ?_
        simpa using hbefore other hother
      have hkeep : ∀ other ∈ before ++ after, other ∈ before ++ field :: after := by
        intro other hother
        rcases List.mem_append.1 hother with hother | hother
        · exact List.mem_append_left _ hother
        · exact List.mem_append_right _ (List.mem_cons_of_mem _ hother)
      have hothers : ∀ s,
          fields.filter (slot ·.1 = s) = (before ++ after).filter (slot ·.1 = s) := by
        intro s
        by_cases hs : slot field.1 = s
        · subst hs
          have hnone : before.filter (slot ·.1 = slot field.1) = [] :=
            List.filter_eq_nil_iff.2 hbefore
          rw [List.filter_append, hnone, hafter, List.nil_append]
        · have hall := hsame s
          rwa [List.filter_cons_of_neg (by simpa using hs), List.filter_append,
            List.filter_cons_of_neg (by simpa using hs), ← List.filter_append] at hall
      have hrest := ih (fun a ha b hb => hswaps a (hkeep a ha) b (hkeep b hb)) hothers
      obtain ⟨number, token⟩ := field
      rw [run_move hmove, run, run]
      exact Option.bind_congr fun value _ => hrest value

theorem Rearranged.mem_iff {fields fields' : List (Nat × Token)} (h : Rearranged fields fields')
    {field : Nat × Token} : field ∈ fields ↔ field ∈ fields' := by
  have hmem : ∀ l : List (Nat × Token), field ∈ l ↔ field ∈ l.filter (·.1 = field.1) := by
    intro l
    simp [List.mem_filter]
  rw [hmem fields, hmem fields', h]

/-- Where one number at most fills each slot, the order in each slot is that for each number. -/
theorem Rearranged.filter_slot {fields fields' : List (Nat × Token)} {slot : Nat → Nat}
    (h : Rearranged fields fields')
    (hslot : ∀ a ∈ fields', ∀ b ∈ fields', slot a.1 = slot b.1 → a.1 = b.1) (s : Nat) :
    fields.filter (slot ·.1 = s) = fields'.filter (slot ·.1 = s) := by
  by_cases hfilled : ∃ a ∈ fields', slot a.1 = s
  · obtain ⟨a, ha, rfl⟩ := hfilled
    have hnumber : ∀ b ∈ fields', decide (slot b.1 = slot a.1) = decide (b.1 = a.1) := by
      intro b hb
      refine decide_eq_decide.2 ⟨hslot b hb a ha, ?_⟩
      exact fun he => he ▸ rfl
    rw [List.filter_congr hnumber, ← h a.1]
    exact List.filter_congr fun b hb => hnumber b (h.mem_iff.1 hb)
  · have hnone : ∀ b ∈ fields', ¬decide (slot b.1 = s) = true := by
      intro b hb hs
      exact hfilled ⟨b, hb, of_decide_eq_true hs⟩
    rw [List.filter_eq_nil_iff.2 hnone,
      List.filter_eq_nil_iff.2 fun b hb => hnone b (h.mem_iff.1 hb)]

/-! ## Messages -/

/-- The steps of a message know the numbers that it declares, and those that fill different slots
can be taken in either order. -/
structure Orderly (declared : List Nat) (slot : Nat → Nat) (step : α → Nat → Token → Step α) :
    Prop where
  unknown : ∀ value number token, number ∉ declared → step value number token = .unknown
  swaps : declared.Pairwise fun m n => slot m ≠ slot n → Swaps step m n

theorem Orderly.swaps_of_ne {declared : List Nat} {slot : Nat → Nat}
    (h : Orderly declared slot step) {m n : Nat} (hm : m ∈ declared) (hn : n ∈ declared)
    (hne : slot m ≠ slot n) : Swaps step m n := by
  have hsymm : Std.Symm fun m n => slot m ≠ slot n → Swaps step m n :=
    ⟨fun _ _ hswaps hne => (hswaps hne.symm).symm⟩
  exact h.swaps.forall_of_forall (fun _ _ hself => absurd rfl hself) hm hn hne

theorem Padded.subset {declared : List Nat} {known tokens : List (Nat × Token)}
    (h : Padded limit declared known tokens) : ∀ field ∈ known, field.1 ∈ declared := by
  induction h with
  | nil => exact nofun
  | declared hnumber _ ih => exact List.forall_mem_cons.2 ⟨hnumber, ih⟩
  | skipped _ _ _ ih => exact ih

theorem Written.mem {encodes : List Nat → Fields → List UInt8 → Prop} {fields : Fields}
    {written : List (Nat × Token)} (h : Written encodes fields written) :
    ∀ field ∈ written, field.1 ∈ fields.map (·.1) := by
  induction h with
  | nil => exact nofun
  | cons _ _ ih =>
      intro field hfield
      rcases List.mem_append.1 hfield with hfield | hfield
      · obtain ⟨token, -, rfl⟩ := List.mem_map.1 hfield
        exact List.mem_cons_self ..
      · exact List.mem_cons_of_mem _ (ih field hfield)

/-- **What a message is read as**: what is read from its declared fields in their order. -/
theorem mergeFields_of_encodes {encodes : List Nat → Fields → List UInt8 → Prop}
    {declared : List Nat} {slot : Nat → Nat} {fields : Fields} {bytes : List UInt8} {result : α}
    (horderly : Orderly declared slot step)
    (hslot : ∀ m ∈ fields.map (·.1), ∀ n ∈ fields.map (·.1), slot m = slot n → m = n)
    (hreads : ∀ written, Written encodes fields written → run step value written = some result)
    (h : EncodesWith encodes limit declared fields bytes) :
    mergeFields limit step value bytes = some result := by
  obtain ⟨written, known, fields', hwritten, hrearranged, hpadded, hspells⟩ := h
  have hdeclared : ∀ field ∈ written, field.1 ∈ declared := fun field hfield =>
    hpadded.subset field (hrearranged.mem_iff.2 hfield)
  have hrun : run step value known = some result := by
    rw [← hreads written hwritten]
    have hfilter : ∀ s, known.filter (slot ·.1 = s) = written.filter (slot ·.1 = s) :=
      hrearranged.filter_slot fun a ha b hb =>
        hslot _ (hwritten.mem a ha) _ (hwritten.mem b hb)
    refine run_congr (fun a ha b hb hne => ?_) hfilter value
    exact horderly.swaps_of_ne (hdeclared a ha) (hdeclared b hb) hne
  rw [mergeFields, tokens_of_spells hspells]
  exact fold_padded horderly.unknown hpadded hrun


end ClientGen.Wire

