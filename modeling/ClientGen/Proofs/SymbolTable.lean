import ClientGen.Api.SymbolTable
import Mathlib.Data.List.Nodup

/-!
# What the operations of a symbol table do to its look-ups

`Table.get?` is the view of a table.  This file says what `modify` and `mapValues` do to that view,
and lifts the statements to the three tables of a `SymbolTable`.

* `Table.mem_keys`, `Table.nodup_keys` — the keys of a table are those with a value, each once.
* `Table.perm_keys` — a list of keys without repetition that covers exactly the look-ups that
  succeed is the list of keys, up to order; so it has as many members as the table.
* `SymbolTable.Below` — one table knows every message that another knows, with the same contents.
-/

namespace ClientGen

universe u v w

/-! ## Tables -/

namespace Table

variable {κ : Type u} {α : Type v} {β : Type w} [Ord κ]

theorem find?_map (f : α → β) (k : κ) (l : List (κ × α)) :
    Entries.find? k (l.map fun e => (e.1, f e.2)) = (Entries.find? k l).map f := by
  induction l with
  | nil => rfl
  | cons e l ih =>
      obtain ⟨k', v⟩ := e
      rw [List.map_cons, Entries.find?, Entries.find?]
      cases compare k k' <;> simp [ih]

@[simp] theorem get?_mapValues (f : α → β) (t : Table κ α) (k : κ) :
    (t.mapValues f).get? k = (t.get? k).map f :=
  find?_map f k t.entries

variable [Std.TransOrd κ] [Std.LawfulEqOrd κ]

/-- A key has the value it was given last. -/
theorem get?_insert' [DecidableEq κ] (t : Table κ α) (k : κ) (v : α) (q : κ) :
    (t.insert k v).get? q = if q = k then some v else t.get? q := by
  rw [get?_insert]
  by_cases h : q = k
  · rw [if_pos (Std.LawfulEqCmp.compare_eq_iff_eq.2 h), if_pos h]
  · rw [if_neg (fun hc => h (Std.LawfulEqCmp.compare_eq_iff_eq.1 hc)), if_neg h]

theorem get?_modify [DecidableEq κ] (t : Table κ α) (k : κ) (f : α → α) (q : κ) :
    (t.modify k f).get? q = if q = k then (t.get? q).map f else t.get? q := by
  unfold modify
  split
  · rename_i v hv
    rw [get?_insert']
    by_cases h : q = k
    · rw [if_pos h, if_pos h, h, hv, Option.map_some]
    · rw [if_neg h, if_neg h]
  · rename_i hv
    by_cases h : q = k
    · rw [if_pos h, h, hv, Option.map_none]
    · rw [if_neg h]

/-- The keys are those with a value. -/
theorem mem_keys {t : Table κ α} {k : κ} : k ∈ t.keys ↔ (t.get? k).isSome := by
  rw [keys, List.mem_map]
  constructor
  · rintro ⟨e, he, rfl⟩
    rw [get?, Entries.find?_of_mem t.ascending he, Option.isSome_some]
  · intro h
    obtain ⟨v, hv⟩ := Option.isSome_iff_exists.1 h
    exact ⟨(k, v), Entries.mem_of_find? hv, rfl⟩

omit [Std.TransOrd κ] in
/-- No key is listed twice. -/
theorem nodup_keys (t : Table κ α) : t.keys.Nodup := by
  rw [keys, List.Nodup, List.pairwise_map]
  refine t.ascending.imp ?_
  intro a b hab heq
  have hself : compare a.1 b.1 = .eq := Std.LawfulEqCmp.compare_eq_iff_eq.2 heq
  rw [hself] at hab
  cases hab

/-- A list of keys that is exact and has no repetition lists the keys of the table. -/
theorem perm_keys {t : Table κ α} {ks : List κ} (hnd : ks.Nodup)
    (h : ∀ k, (t.get? k).isSome ↔ k ∈ ks) : t.keys.Perm ks :=
  (List.perm_ext_iff_of_nodup t.nodup_keys hnd).2 fun k => mem_keys.trans (h k)

omit [Std.TransOrd κ] [Std.LawfulEqOrd κ] in
theorem size_eq_length {t : Table κ α} {ks : List κ} (h : t.keys.Perm ks) :
    t.size = ks.length := by
  rw [← h.length_eq, keys, List.length_map, size]

end Table

/-! ## Symbol tables -/

namespace SymbolTable

variable (t : SymbolTable) (id : String)

@[simp] theorem message?_addMessage (m : Message) :
    (t.addMessage m).message? id = if id = m.id then some m else t.message? id :=
  Table.get?_insert' ..

@[simp] theorem enum?_addEnum (e : Enum) :
    (t.addEnum e).enum? id = if id = e.id then some e else t.enum? id :=
  Table.get?_insert' ..

@[simp] theorem service?_addService (s : Service) :
    (t.addService s).service? id = if id = s.id then some s else t.service? id :=
  Table.get?_insert' ..

@[simp] theorem message?_modifyMessage (k : String) (f : Message → Message) :
    (t.modifyMessage k f).message? id
      = if id = k then (t.message? id).map f else t.message? id :=
  Table.get?_modify ..

@[simp] theorem enum?_modifyEnum (k : String) (f : Enum → Enum) :
    (t.modifyEnum k f).enum? id = if id = k then (t.enum? id).map f else t.enum? id :=
  Table.get?_modify ..

@[simp] theorem service?_modifyService (k : String) (f : Service → Service) :
    (t.modifyService k f).service? id
      = if id = k then (t.service? id).map f else t.service? id :=
  Table.get?_modify ..

/-- Two tables with the same look-ups are equal. -/
theorem ext_get? {s t : SymbolTable} (hm : ∀ id, s.message? id = t.message? id)
    (he : ∀ id, s.enum? id = t.enum? id) (hs : ∀ id, s.service? id = t.service? id) : s = t := by
  obtain ⟨ms, es, ss⟩ := s
  obtain ⟨ms', es', ss'⟩ := t
  obtain rfl : ms = ms' := Table.ext_get? hm
  obtain rfl : es = es' := Table.ext_get? he
  obtain rfl : ss = ss' := Table.ext_get? hs
  rfl

/-- The messages of `s` are in `t` as well, unchanged. -/
def Below (s t : SymbolTable) : Prop :=
  ∀ id m, s.message? id = some m → t.message? id = some m

theorem Below.trans {r s t : SymbolTable} (h₁ : r.Below s) (h₂ : s.Below t) : r.Below t :=
  fun id m h => h₂ id m (h₁ id m h)

end SymbolTable

end ClientGen
