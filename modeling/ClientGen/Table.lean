/-!
# Tables: finite maps in the order of their keys

A table lists its entries by strictly ascending key, so a key has at most one value and two tables
with the same look-ups are the same table (`ext`).  The view of a table is the function `get?`; each
operation has one lemma that says what it does to that view.
-/

namespace ClientGen

universe u v w

/-! ## Ascending lists of entries -/

namespace Entries

variable {κ : Type u} {α : Type v} [Ord κ]

/-- The value of a key, found by leaving the list at the first larger key. -/
def find? (k : κ) : List (κ × α) → Option α
  | [] => none
  | (k', v) :: rest =>
      match compare k k' with
      | .lt => none
      | .eq => some v
      | .gt => find? k rest

/-- Puts a value at its place, over the value the key had. -/
def put (k : κ) (v : α) : List (κ × α) → List (κ × α)
  | [] => [(k, v)]
  | (k', v') :: rest =>
      match compare k k' with
      | .lt => (k, v) :: (k', v') :: rest
      | .eq => (k, v) :: rest
      | .gt => (k', v') :: put k v rest

/-- Every key lies before all later ones. -/
def Ascending (entries : List (κ × α)) : Prop :=
  entries.Pairwise fun a b => compare a.1 b.1 = .lt

theorem mem_put {k : κ} {v : α} {e : κ × α} {l : List (κ × α)} (h : e ∈ put k v l) :
    e = (k, v) ∨ e ∈ l := by
  induction l with
  | nil => simpa [put] using h
  | cons head tail ih =>
      obtain ⟨k', v'⟩ := head
      unfold put at h
      split at h
      · simpa using h
      · rcases List.mem_cons.1 h with h | h
        · exact Or.inl h
        · exact Or.inr (List.mem_cons_of_mem _ h)
      · rcases List.mem_cons.1 h with h | h
        · exact Or.inr (h ▸ List.mem_cons_self ..)
        · exact (ih h).imp id (List.mem_cons_of_mem _)

variable [Std.TransOrd κ] [Std.LawfulEqOrd κ]

theorem Ascending.put {l : List (κ × α)} (h : Ascending l) (k : κ) (v : α) :
    Ascending (put k v l) := by
  induction l with
  | nil => simp [Entries.put, Ascending]
  | cons head tail ih =>
      obtain ⟨k', v'⟩ := head
      obtain ⟨hhead, htail⟩ := List.pairwise_cons.1 h
      unfold Entries.put
      split
      · rename_i hlt
        refine List.pairwise_cons.2 ⟨fun e he => ?_, h⟩
        rcases List.mem_cons.1 he with rfl | he
        · exact hlt
        · exact Std.TransCmp.lt_trans hlt (hhead e he)
      · rename_i heq
        obtain rfl := Std.LawfulEqCmp.eq_of_compare heq
        exact List.pairwise_cons.2 ⟨hhead, htail⟩
      · rename_i hgt
        refine List.pairwise_cons.2 ⟨fun e he => ?_, ih htail⟩
        rcases mem_put he with rfl | he
        · exact Std.OrientedCmp.gt_iff_lt.1 hgt
        · exact hhead e he

theorem find?_put {l : List (κ × α)} (k : κ) (v : α) (q : κ) :
    find? q (put k v l) = if compare q k = .eq then some v else find? q l := by
  induction l with
  | nil => cases hq : compare q k <;> simp [put, find?, hq]
  | cons head tail ih =>
      obtain ⟨k', v'⟩ := head
      rw [put]
      split
      · rename_i hlt
        cases hq : compare q k with
        | lt => simp [find?, hq, Std.TransCmp.lt_trans hq hlt]
        | eq => simp [find?, hq]
        | gt => simp [find?, hq]
      · rename_i heq
        obtain rfl := Std.LawfulEqCmp.eq_of_compare heq
        cases hq : compare q k <;> simp [find?, hq]
      · rename_i hgt
        cases hq : compare q k' with
        | gt => simp [find?, hq, ih]
        | lt =>
            have hqk : compare q k = .lt :=
              Std.TransCmp.lt_trans hq (Std.OrientedCmp.gt_iff_lt.1 hgt)
            simp [find?, hq, hqk]
        | eq =>
            obtain rfl := Std.LawfulEqCmp.eq_of_compare hq
            have hqk : compare q k = .lt := Std.OrientedCmp.gt_iff_lt.1 hgt
            simp [find?, hqk]

theorem find?_of_mem {l : List (κ × α)} (h : Ascending l) {k : κ} {v : α} (hm : (k, v) ∈ l) :
    find? k l = some v := by
  induction l with
  | nil => cases hm
  | cons head tail ih =>
      obtain ⟨k', v'⟩ := head
      obtain ⟨hhead, htail⟩ := List.pairwise_cons.1 h
      rcases List.mem_cons.1 hm with hm | hm
      · cases hm; simp [find?, Std.ReflCmp.compare_self]
      · have hgt : compare k k' = .gt := Std.OrientedCmp.gt_iff_lt.2 (hhead _ hm)
        simp [find?, hgt, ih htail hm]

omit [Std.TransOrd κ] in
theorem mem_of_find? {l : List (κ × α)} {k : κ} {v : α} (h : find? k l = some v) :
    (k, v) ∈ l := by
  induction l with
  | nil => cases h
  | cons head tail ih =>
      obtain ⟨k', v'⟩ := head
      rw [find?] at h
      split at h
      · cases h
      · rename_i heq
        obtain rfl := Std.LawfulEqCmp.eq_of_compare heq
        cases h
        exact List.mem_cons_self ..
      · exact List.mem_cons_of_mem _ (ih h)

theorem eq_of_find?_eq {l₁ l₂ : List (κ × α)} (h₁ : Ascending l₁) (h₂ : Ascending l₂)
    (h : ∀ k, find? k l₁ = find? k l₂) : l₁ = l₂ := by
  have hmem : ∀ e, e ∈ l₁ ↔ e ∈ l₂ := fun e =>
    ⟨fun he => mem_of_find? (h e.1 ▸ find?_of_mem h₁ he),
     fun he => mem_of_find? ((h e.1).symm ▸ find?_of_mem h₂ he)⟩
  clear h
  induction l₁ generalizing l₂ with
  | nil =>
      cases l₂ with
      | nil => rfl
      | cons b t => exact absurd ((hmem b).2 (List.mem_cons_self ..)) (List.not_mem_nil)
  | cons a s ih =>
      cases l₂ with
      | nil => exact absurd ((hmem a).1 (List.mem_cons_self ..)) (List.not_mem_nil)
      | cons b t =>
          obtain ⟨ha, hs⟩ := List.pairwise_cons.1 h₁
          obtain ⟨hb, ht⟩ := List.pairwise_cons.1 h₂
          have irrefl : ∀ k : κ, compare k k ≠ .lt := fun k hk => by
            simp [Std.ReflCmp.compare_self] at hk
          have hab : a = b := by
            rcases List.mem_cons.1 ((hmem a).1 (List.mem_cons_self ..)) with hab | hat
            · exact hab
            · rcases List.mem_cons.1 ((hmem b).2 (List.mem_cons_self ..)) with hba | hbs
              · exact hba.symm
              · exact absurd (Std.TransCmp.lt_trans (hb a hat) (ha b hbs)) (irrefl _)
          subst hab
          refine congrArg (a :: ·) (ih hs ht fun e => ⟨fun he => ?_, fun he => ?_⟩)
          · rcases List.mem_cons.1 ((hmem e).1 (List.mem_cons_of_mem _ he)) with rfl | h
            · exact absurd (ha _ he) (irrefl _)
            · exact h
          · rcases List.mem_cons.1 ((hmem e).2 (List.mem_cons_of_mem _ he)) with rfl | h
            · exact absurd (hb _ he) (irrefl _)
            · exact h

end Entries

/-! ## Tables -/

/-- A finite map whose entries are listed by ascending key. -/
structure Table (κ : Type u) (α : Type v) [Ord κ] where
  entries : List (κ × α)
  ascending : Entries.Ascending entries

namespace Table

variable {κ : Type u} {α : Type v} {β : Type w} [Ord κ]

/-- The table without entries. -/
def empty : Table κ α := ⟨[], List.Pairwise.nil⟩

instance : EmptyCollection (Table κ α) := ⟨empty⟩
instance : Inhabited (Table κ α) := ⟨empty⟩

/-- The value of a key. -/
def get? (t : Table κ α) (k : κ) : Option α :=
  Entries.find? k t.entries

/-- Does the key have a value? -/
def contains (t : Table κ α) (k : κ) : Bool :=
  (t.get? k).isSome

/-- The keys in ascending order. -/
def keys (t : Table κ α) : List κ :=
  t.entries.map (·.1)

/-- The values in the order of their keys. -/
def values (t : Table κ α) : List α :=
  t.entries.map (·.2)

/-- The number of entries. -/
def size (t : Table κ α) : Nat :=
  t.entries.length

/-- Keeps the entries that pass a test. -/
def filter (p : κ → α → Bool) (t : Table κ α) : Table κ α :=
  ⟨t.entries.filter fun e => p e.1 e.2, List.Pairwise.filter _ t.ascending⟩

/-- Changes every value. -/
def mapValues (f : α → β) (t : Table κ α) : Table κ β :=
  ⟨t.entries.map fun e => (e.1, f e.2), by
    unfold Entries.Ascending
    rw [List.pairwise_map]
    exact t.ascending⟩

instance [DecidableEq κ] [DecidableEq α] : DecidableEq (Table κ α) := fun s t =>
  if h : s.entries = t.entries then
    isTrue (by obtain ⟨_, _⟩ := s; obtain ⟨_, _⟩ := t; cases h; rfl)
  else isFalse fun e => h (congrArg _ e)

variable [Std.TransOrd κ] [Std.LawfulEqOrd κ]

/-- Gives a key a value, replacing the one it had. -/
def insert (t : Table κ α) (k : κ) (v : α) : Table κ α :=
  ⟨Entries.put k v t.entries, t.ascending.put k v⟩

/-- Takes a key out. -/
def erase (t : Table κ α) (k : κ) : Table κ α :=
  t.filter fun k' _ => compare k' k != .eq

/-- Changes the value of a key, if it has one. -/
def modify (t : Table κ α) (k : κ) (f : α → α) : Table κ α :=
  match t.get? k with
  | some v => t.insert k (f v)
  | none => t

/-- Adds entries from left to right: the last value of a key stays. -/
def insertAll (t : Table κ α) (l : List (κ × α)) : Table κ α :=
  l.foldl (fun t e => t.insert e.1 e.2) t

/-- The table of a list of entries: the last value of a key stays. -/
def ofList (l : List (κ × α)) : Table κ α :=
  empty.insertAll l

/-- Lays a table over another: where both have a key the upper one decides. -/
def overlay (lower upper : Table κ α) : Table κ α :=
  lower.insertAll upper.entries

omit [Std.TransOrd κ] [Std.LawfulEqOrd κ] in
@[simp] theorem get?_empty (k : κ) : (empty : Table κ α).get? k = none := rfl

theorem get?_insert (t : Table κ α) (k : κ) (v : α) (q : κ) :
    (t.insert k v).get? q = if compare q k = .eq then some v else t.get? q :=
  Entries.find?_put k v q

/-- Tables with the same look-ups are equal. -/
theorem ext_get? {s t : Table κ α} (h : ∀ k, s.get? k = t.get? k) : s = t := by
  obtain ⟨s, hs⟩ := s
  obtain ⟨t, ht⟩ := t
  obtain rfl : s = t := Entries.eq_of_find?_eq hs ht h
  rfl

end Table

end ClientGen
