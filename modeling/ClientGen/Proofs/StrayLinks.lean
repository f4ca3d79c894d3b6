import ClientGen.Proofs.Assembling

/-!
# Links from before

Elements that are put together by `Api.ofElements` may have links already.  Those that identifiers
tell are made anyway, and no child is listed twice; all others stay.

* `Api.foldl_appendOnce_perm` — children are added to what is listed beyond them.
* `strays`, `Message.SameStrays` — the links that identifiers do not tell.
* `forall_rel_find?_iff` — two tables of versions of the same items, compared item by item.
* `Api.ofElements_agree_iff` — two APIs of elements that differ in links only are the same, up to
  the order of children, if and only if the links that identifiers do not tell are the same.
-/

namespace ClientGen

open Identifier (parentName)

/-! ## Links that identifiers do not tell -/

/-- Appending each of some identifiers once adds them to what is listed beyond them. -/
theorem Api.foldl_appendOnce_perm {ids : List String} (h : ids.Nodup) (known : List String) :
    (ids.foldl appendOnce known).Perm (ids ++ known.diff ids) := by
  induction ids generalizing known with
  | nil => simp
  | cons id ids ih =>
      obtain ⟨hid, hids⟩ := List.nodup_cons.1 h
      -- with the identifier in front, it is there once more than it is listed beyond the others
      have hfront : (appendOnce known id).Perm (id :: known.erase id) := by
        unfold appendOnce
        split
        · rename_i hmem
          exact List.perm_cons_erase hmem
        · rename_i hmem
          rw [List.erase_of_not_mem hmem]
          exact List.perm_append_singleton id known
      have hdiff : ((id :: known.erase id).diff ids).Perm (id :: (known.erase id).diff ids) := by
        rw [List.cons_diff_of_not_mem hid]
      rw [List.foldl_cons, List.diff_cons]
      exact ((ih hids (appendOnce known id)).trans
        (((hfront.diff_right ids).trans hdiff).append_left ids)).trans List.perm_middle

/-- Messages that are the same but for the order of what they list. -/
structure Message.SameUpToOrder (m n : Message) : Prop where
  contents : m.unlinked = n.unlinked
  parent : m.parent = n.parent
  messages : m.messages.Perm n.messages
  enums : m.enums.Perm n.enums

/-- Tables that are the same but for the order of what their messages list. -/
structure SymbolTable.SameUpToOrder (t u : SymbolTable) : Prop where
  message : ∀ id, Option.Rel Message.SameUpToOrder (t.message? id) (u.message? id)
  enum : ∀ id, t.enum? id = u.enum? id
  service : ∀ id, t.service? id = u.service? id

/-- What a message lists beyond the given identifiers that name it as their parent. -/
def strays (ids : List String) (id : String) (listed : List String) : List String :=
  listed.diff (ids.filter (parentName · = id))

/-- Two versions of a message have the same links that identifiers do not tell: the parent, if its
identifier names none of the messages, and what it lists beyond its children. -/
structure Message.SameStrays (messageIds enumIds : List String) (m n : Message) : Prop where
  parent : parentName m.id ∉ messageIds → m.parent = n.parent
  messages : (strays messageIds m.id m.messages).Perm (strays messageIds m.id n.messages)
  enums : (strays enumIds m.id m.enums).Perm (strays enumIds m.id n.enums)

instance (messageIds enumIds : List String) (m n : Message) :
    Decidable (m.SameStrays messageIds enumIds n) :=
  decidable_of_iff
    ((parentName m.id ∉ messageIds → m.parent = n.parent) ∧
      (strays messageIds m.id m.messages).Perm (strays messageIds m.id n.messages) ∧
      (strays enumIds m.id m.enums).Perm (strays enumIds m.id n.enums))
    ⟨fun h => ⟨h.1, h.2.1, h.2.2⟩, fun h => ⟨h.parent, h.messages, h.enums⟩⟩

theorem foldl_appendOnce_perm_iff {ids known known' : List String} (h : ids.Nodup) (id : String) :
    ((ids.filter (parentName · = id)).foldl Api.appendOnce known).Perm
        ((ids.filter (parentName · = id)).foldl Api.appendOnce known') ↔
      (strays ids id known).Perm (strays ids id known') := by
  have hknown := Api.foldl_appendOnce_perm (h.filter (parentName · = id)) known
  have hknown' := Api.foldl_appendOnce_perm (h.filter (parentName · = id)) known'
  rw [hknown.congr_left, hknown'.congr_right, List.perm_append_left_iff, strays, strays]

/-- What identifiers tell is the same for both versions, so only stray links make a difference. -/
theorem Message.sameUpToOrder_linkedAmong_iff {m n : Message} (h : m.unlinked = n.unlinked)
    {messageIds enumIds : List String} (hm : messageIds.Nodup) (he : enumIds.Nodup) :
    (m.linkedAmong messageIds enumIds).SameUpToOrder (n.linkedAmong messageIds enumIds) ↔
      m.SameStrays messageIds enumIds n := by
  have hid : m.unlinked.id = n.unlinked.id := congrArg Message.id h
  have hid : m.id = n.id := hid
  have hparent : (m.linkedAmong messageIds enumIds).parent
      = (n.linkedAmong messageIds enumIds).parent ↔
        (parentName m.id ∉ messageIds → m.parent = n.parent) := by
    rw [linkedAmong, linkedAmong, hid]
    by_cases hgiven : parentName n.id ∈ messageIds
    · simp [hgiven]
    · simp [hgiven]
  have hmessages : (m.linkedAmong messageIds enumIds).messages.Perm
      (n.linkedAmong messageIds enumIds).messages ↔
        (strays messageIds m.id m.messages).Perm (strays messageIds m.id n.messages) := by
    rw [linkedAmong, linkedAmong, hid]
    exact foldl_appendOnce_perm_iff hm n.id
  have henums : (m.linkedAmong messageIds enumIds).enums.Perm
      (n.linkedAmong messageIds enumIds).enums ↔
        (strays enumIds m.id m.enums).Perm (strays enumIds m.id n.enums) := by
    rw [linkedAmong, linkedAmong, hid]
    exact foldl_appendOnce_perm_iff he n.id
  constructor
  · intro hsame
    exact ⟨hparent.1 hsame.parent, hmessages.1 hsame.messages, henums.1 hsame.enums⟩
  · intro hstrays
    exact ⟨h, hparent.2 hstrays.parent, hmessages.2 hstrays.messages, henums.2 hstrays.enums⟩

theorem Enum.eq_of_unlinked_eq {e f : Enum} (h : e.unlinked = f.unlinked)
    (hparent : e.parent = f.parent) : e = f :=
  calc e
    _ = { e.unlinked with parent := e.parent } := rfl
    _ = { f.unlinked with parent := f.parent } := by rw [h, hparent]
    _ = f := rfl

/-- What the identifier of an enum tells is the same for both versions, too. -/
theorem Enum.linkedAmong_eq_iff {e f : Enum} (h : e.unlinked = f.unlinked)
    (messageIds : List String) :
    e.linkedAmong messageIds = f.linkedAmong messageIds ↔
      (parentName e.id ∉ messageIds → e.parent = f.parent) := by
  have hid : e.unlinked.id = f.unlinked.id := congrArg Enum.id h
  have hid : e.id = f.id := hid
  have hparent : e.linkedAmong messageIds = f.linkedAmong messageIds ↔
      (e.linkedAmong messageIds).parent = (f.linkedAmong messageIds).parent :=
    ⟨congrArg Enum.parent, Enum.eq_of_unlinked_eq h⟩
  rw [hparent, linkedAmong, linkedAmong, hid]
  by_cases hgiven : parentName f.id ∈ messageIds
  · simp [hgiven]
  · simp [hgiven]

section Versions

variable {α β : Type} {items items' : List α} {key : α → String}

/-- Look-ups in two lists with the same distinct keys are related if all items of the same key
are. -/
theorem forall_rel_find?_iff {R : β → β → Prop} (f g : α → β)
    (hkeys : items.map key = items'.map key) (hnd : (items.map key).Nodup) :
    (∀ k, Option.Rel R ((items.find? fun a => decide (key a = k)).map f)
        ((items'.find? fun a => decide (key a = k)).map g)) ↔
      ∀ a ∈ items, ∀ b ∈ items', key a = key b → R (f a) (g b) := by
  have hfind : ∀ a ∈ items, items.find? (fun b => decide (key b = key a)) = some a :=
    fun a ha => find?_of_nodup hnd ha
  have hfind' : ∀ b ∈ items', items'.find? (fun a => decide (key a = key b)) = some b :=
    fun b hb => find?_of_nodup (hkeys ▸ hnd) hb
  constructor
  · intro h a ha b hb hab
    have hrel := h (key a)
    rw [hfind a ha, hab, hfind' b hb] at hrel
    cases hrel with
    | some hrel => exact hrel
  · intro h k
    by_cases hk : k ∈ items.map key
    · obtain ⟨a, ha, rfl⟩ := List.mem_map.1 hk
      obtain ⟨b, hb, hba⟩ := List.mem_map.1 (hkeys ▸ hk : key a ∈ items'.map key)
      rw [hfind a ha, ← hba, hfind' b hb]
      exact .some (h a ha b hb hba.symm)
    · rw [Option.not_isSome_iff_eq_none.1 (mt isSome_find?_key.1 hk),
        Option.not_isSome_iff_eq_none.1 (mt isSome_find?_key.1 (hkeys ▸ hk))]
      exact .none

variable (bare : α → α) (hkey : ∀ a, key (bare a) = key a)
include hkey

theorem map_key_eq (h : items.map bare = items'.map bare) : items.map key = items'.map key := by
  have hcomp : key ∘ bare = key := funext hkey
  rw [← hcomp, ← List.map_map, ← List.map_map, h]

/-- Two versions of items with distinct keys correspond to each other by their keys. -/
theorem bare_eq_of_key_eq (h : items.map bare = items'.map bare) (hnd : (items.map key).Nodup)
    {a b : α} (ha : a ∈ items) (hb : b ∈ items') (hab : key a = key b) : bare a = bare b := by
  obtain ⟨a', ha', hbare⟩ := List.mem_map.1 (h ▸ List.mem_map_of_mem hb : bare b ∈ items.map bare)
  have hkeys : key a' = key a := by rw [← hkey, hbare, hkey, hab]
  rw [← hbare, List.inj_on_of_nodup_map hnd ha' ha hkeys]

end Versions

theorem option_rel_eq_iff {α : Type} {a b : Option α} : Option.Rel (· = ·) a b ↔ a = b := by
  constructor
  · intro h
    cases h with
    | some h => rw [h]
    | none => rfl
  · rintro rfl
    cases a with
    | none => exact .none
    | some a => exact .some rfl

namespace Api

variable {ms ns : List Message} {es fs : List Enum} {ss : List Service}

section Elements

variable (hids : DistinctElements ms es ss)
  (hmessages : ms.map Message.unlinked = ns.map Message.unlinked)
  (henums : es.map Enum.unlinked = fs.map Enum.unlinked)
include hids hmessages henums

/-- The identifiers of both versions are the same, hence distinct. -/
theorem distinctElements_of_unlinked_eq :
    ms.map (·.id) = ns.map (·.id) ∧ es.map (·.id) = fs.map (·.id) ∧ DistinctElements ns fs ss := by
  have hmessageIds : ms.map (·.id) = ns.map (·.id) :=
    map_key_eq Message.unlinked (fun _ => rfl) hmessages
  have henumIds : es.map (·.id) = fs.map (·.id) :=
    map_key_eq Enum.unlinked (fun _ => rfl) henums
  exact ⟨hmessageIds, henumIds,
    hmessageIds ▸ hids.messages, henumIds ▸ hids.enums, hids.services⟩

theorem forall_message?_ofElements_iff :
    (∀ id, Option.Rel Message.SameUpToOrder
      ((ofElements ms es ss).symbols.message? id) ((ofElements ns fs ss).symbols.message? id)) ↔
        ∀ m ∈ ms, ∀ n ∈ ns, m.id = n.id → m.SameStrays (ms.map (·.id)) (es.map (·.id)) n := by
  obtain ⟨hmessageIds, henumIds, hids'⟩ := distinctElements_of_unlinked_eq hids hmessages henums
  simp only [message?_ofElements hids, message?_ofElements hids', ← hmessageIds, ← henumIds]
  rw [forall_rel_find?_iff _ _ hmessageIds hids.messages]
  refine forall₂_congr fun m hm => forall₂_congr fun n hn => forall_congr' fun hid => ?_
  have hbare :=
    bare_eq_of_key_eq Message.unlinked (fun _ => rfl) hmessages hids.messages hm hn hid
  exact Message.sameUpToOrder_linkedAmong_iff hbare hids.messages hids.enums

theorem forall_enum?_ofElements_iff :
    (∀ id, (ofElements ms es ss).symbols.enum? id = (ofElements ns fs ss).symbols.enum? id) ↔
      ∀ e ∈ es, ∀ f ∈ fs, e.id = f.id → parentName e.id ∉ ms.map (·.id) →
        e.parent = f.parent := by
  obtain ⟨hmessageIds, henumIds, hids'⟩ := distinctElements_of_unlinked_eq hids hmessages henums
  have hrel := forall_rel_find?_iff (R := (· = ·)) (Enum.linkedAmong (ms.map (·.id)))
    (Enum.linkedAmong (ms.map (·.id))) henumIds hids.enums
  simp only [option_rel_eq_iff] at hrel
  simp only [enum?_ofElements hids, enum?_ofElements hids', ← hmessageIds]
  rw [hrel]
  refine forall₂_congr fun e he => forall₂_congr fun f hf => forall_congr' fun hid => ?_
  have hbare := bare_eq_of_key_eq Enum.unlinked (fun _ => rfl) henums hids.enums he hf hid
  exact Enum.linkedAmong_eq_iff hbare _

end Elements

/-! ## Main result -/

/-- **Links from before stay, unless identifiers tell them.**  Two lists of elements that differ in
links only make APIs that select the same elements.  The tables are the same, up to the order of
what messages list, if and only if both versions of every element have the same stray links: a
parent where the identifier names no given message, and listed elements beyond the children. -/
theorem ofElements_agree_iff (hids : DistinctElements ms es ss)
    (hmessages : ms.map Message.unlinked = ns.map Message.unlinked)
    (henums : es.map Enum.unlinked = fs.map Enum.unlinked) :
    let api := ofElements ms es ss
    let other := ofElements ns fs ss
    api.messages = other.messages ∧ api.enums = other.enums ∧ api.services = other.services ∧
      (api.symbols.SameUpToOrder other.symbols ↔
        (∀ m ∈ ms, ∀ n ∈ ns, m.id = n.id → m.SameStrays (ms.map (·.id)) (es.map (·.id)) n) ∧
        ∀ e ∈ es, ∀ f ∈ fs, e.id = f.id →
          parentName e.id ∉ ms.map (·.id) → e.parent = f.parent) := by
  obtain ⟨hmessageIds, henumIds, hids'⟩ := distinctElements_of_unlinked_eq hids hmessages henums
  refine ⟨?messages, ?enums, ?services, ?agree⟩
  case messages => rw [messages_ofElements hids, messages_ofElements hids', hmessageIds]
  case enums => rw [enums_ofElements hids, enums_ofElements hids', henumIds, hmessageIds]
  case services => rw [services_ofElements, services_ofElements]
  case agree =>
    rw [← forall_message?_ofElements_iff hids hmessages henums,
      ← forall_enum?_ofElements_iff hids hmessages henums]
    refine ⟨fun h => ⟨h.message, h.enum⟩, fun h => ⟨h.1, h.2, fun id => ?_⟩⟩
    rw [service?_ofElements hids, service?_ofElements hids']

end Api

/-- A shelf that lists one of its two tags already, beside the tags. -/
def taggedShelf : List Message :=
  [{ id := ".library.Shelf", name := "Shelf", messages := [".library.Shelf.Tag"] },
    { id := ".library.Shelf.Label", name := "Label" },
    { id := ".library.Shelf.Tag", name := "Tag", parent := some ".library" }]

theorem taggedShelf_agrees :
    DistinctElements taggedShelf [] [] ∧
      (Api.ofElements taggedShelf [] []).symbols.SameUpToOrder
        (Api.ofElements (taggedShelf.map Message.unlinked) [] []).symbols := by
  have hids : DistinctElements taggedShelf [] [] := ⟨by decide, by decide, by decide⟩
  obtain ⟨-, -, -, hagree⟩ := @Api.ofElements_agree_iff taggedShelf
    (taggedShelf.map Message.unlinked) [] [] [] hids (by decide) rfl
  exact ⟨hids, hagree.2 ⟨by decide, by decide⟩⟩

theorem SymbolTable.SameUpToOrder.messagesIn {t u : SymbolTable} (h : t.SameUpToOrder u)
    (id : String) : (t.messagesIn id).Perm (u.messagesIn id) := by
  have hrel := h.message id
  unfold SymbolTable.messagesIn
  generalize t.message? id = m at hrel ⊢
  generalize u.message? id = n at hrel ⊢
  cases hrel with
  | some hsame => exact hsame.messages
  | none => exact List.Perm.refl _

/-- A shelf that lists a book as nested, although the identifier of the book tells otherwise. -/
def staleShelf : List Message :=
  [{ id := ".library.Shelf", name := "Shelf", messages := [".library.Book"] },
    { id := ".library.Book", name := "Book" }]

/-- The stale link stays: the book is selected and listed in the shelf as well, which it is not when
the shelf has no link from before. -/
theorem staleShelf_keepsLink :
    DistinctElements staleShelf [] [] ∧ (∀ m ∈ staleShelf, m.id ≠ Identifier.root) ∧
      ".library.Book" ∈ (Api.ofElements staleShelf [] []).messages ∧
      ".library.Book" ∈ (Api.ofElements staleShelf [] []).symbols.messagesIn ".library.Shelf" ∧
      ¬(Api.ofElements staleShelf [] []).symbols.SameUpToOrder
        (Api.ofElements (staleShelf.map Message.unlinked) [] []).symbols := by
  have hstale : (Api.ofElements staleShelf [] []).symbols.messagesIn ".library.Shelf"
      = [".library.Book"] := by decide +kernel
  have hbare : (Api.ofElements (staleShelf.map Message.unlinked) [] []).symbols.messagesIn
      ".library.Shelf" = [] := by decide +kernel
  refine ⟨⟨by decide, by decide, by decide⟩, by decide, by decide +kernel, ?_, fun hsame => ?_⟩
  · rw [hstale]
    exact List.mem_singleton_self _
  · have hperm := hsame.messagesIn ".library.Shelf"
    rw [hstale, hbare] at hperm
    cases hperm.eq_nil

end ClientGen
