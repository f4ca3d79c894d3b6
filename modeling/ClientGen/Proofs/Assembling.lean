import ClientGen.Proofs.Comments
import ClientGen.Proofs.Placing
import Mathlib.Data.List.Perm.Basic

/-!
# APIs made of plain elements

`Api.ofElements` takes elements in any order, a message perhaps after what is nested in it, and
links them by their identifiers.

* `Api.message?_ofElements`, `enum?_ofElements`, `messages_ofElements`, `enums_ofElements` — the API
  of elements with distinct identifiers, links from before included.
* `perm_filter_parents` — what has none of some parents and what has each of them is everything.
* `Api.Nests`, `Api.nests_ofElements` — elements without links are all nested as their identifiers
  tell: each is listed once, and no walk along the links comes back.
-/

namespace ClientGen

open Identifier (parentName)

/-! ## Parents are shorter -/

/-- An identifier is longer than that of its parent, unless the parent is the root. -/
theorem Identifier.length_parentName_lt {id : String} (h : parentName id ≠ root) :
    (parentName id).length < id.length := by
  unfold parentName at h ⊢
  split at h
  · exact absurd rfl h
  · exact absurd rfl h
  · rename_i parent _ hparent
    rw [String.length_ofList, ← String.length_toList]
    unfold beforeLastDot at hparent
    split at hparent
    · cases hparent
    · rename_i dot rest hrest
      have hsuffix : (dot :: rest).length ≤ id.toList.reverse.length :=
        hrest ▸ (List.dropWhile_suffix _).length_le
      rw [← Option.some.inj hparent, List.length_reverse]
      rw [List.length_cons, List.length_reverse] at hsuffix
      omega

/-! ## The table that the elements start from -/

/-- Items with distinct keys are found under their own keys, and nothing else is. -/
theorem Table.get?_foldl_insert_of_nodup {α : Type} {key : α → String} {items : List α}
    (h : (items.map key).Nodup) (k : String) :
    (items.foldl (fun t a => t.insert (key a) a) (∅ : Table String α)).get? k
      = items.find? fun a => decide (key a = k) := by
  rw [Table.get?_foldl_insert (f := fun k => items.find? fun a => decide (key a = k))
    fun a ha => find?_of_nodup h ha]
  split
  · rfl
  · rename_i hk
    refine (List.find?_eq_none.2 fun a ha hak => hk ?_).symm
    exact of_decide_eq_true hak ▸ List.mem_map_of_mem ha

theorem isSome_find?_key {α : Type} {key : α → String} {items : List α} {k : String} :
    (items.find? fun a => decide (key a = k)).isSome ↔ k ∈ items.map key := by
  simp [List.find?_isSome]

/-- Lists of elements in which no identifier is given twice. -/
structure DistinctElements (ms : List Message) (es : List Enum) (ss : List Service) : Prop where
  messages : (ms.map (·.id)).Nodup
  enums : (es.map (·.id)).Nodup
  services : (ss.map (·.id)).Nodup

/-- The message with the links that it has among others: what it lists and what names it as the
parent, and its own parent if that is one of them. -/
def Message.linkedAmong (messageIds enumIds : List String) (m : Message) : Message :=
  { m with
    messages := (messageIds.filter (parentName · = m.id)).foldl Api.appendOnce m.messages
    enums := (enumIds.filter (parentName · = m.id)).foldl Api.appendOnce m.enums
    parent := if parentName m.id ∈ messageIds then some (parentName m.id) else m.parent }

/-- The enum with the message as its parent that its identifier names, if that is one of some. -/
def Enum.linkedAmong (messageIds : List String) (e : Enum) : Enum :=
  { e with parent := if parentName e.id ∈ messageIds then some (parentName e.id) else e.parent }

namespace Api

variable {ms : List Message} {es : List Enum} {ss : List Service}

/-- The elements before any of them is placed. -/
def unplaced (ms : List Message) (es : List Enum) (ss : List Service) : Api where
  services := ss.map (·.id)
  symbols := symbolsOf ms es ss

theorem ofElements_eq : ofElements ms es ss
    = (es.map (·.id)).foldl placeEnum ((ms.map (·.id)).foldl placeMessage (unplaced ms es ss)) :=
  rfl

section Distinct

variable (h : DistinctElements ms es ss) (id : String)
include h

theorem message?_unplaced : (unplaced ms es ss).symbols.message? id = ms.find? (·.id = id) := by
  rw [unplaced, symbolsOf_eq]
  exact Table.get?_foldl_insert_of_nodup h.messages id

theorem enum?_unplaced : (unplaced ms es ss).symbols.enum? id = es.find? (·.id = id) := by
  rw [unplaced, symbolsOf_eq]
  exact Table.get?_foldl_insert_of_nodup h.enums id

theorem hasParent_unplaced :
    (unplaced ms es ss).HasParent id ↔ parentName id ∈ ms.map (·.id) := by
  rw [HasParent, message?_unplaced h, isSome_find?_key]

/-! ## What becomes of the elements -/

/-- Every given message is in the table with its links, and no other message is. -/
theorem message?_ofElements : (ofElements ms es ss).symbols.message? id
    = (ms.find? (·.id = id)).map (Message.linkedAmong (ms.map (·.id)) (es.map (·.id))) := by
  rw [ofElements_eq, message?_foldl_placeEnum, message?_foldl_placeMessage, message?_unplaced h,
    Option.map_map]
  cases hfind : ms.find? (·.id = id) with
  | none => rfl
  | some m =>
      obtain rfl : m.id = id := by simpa using List.find?_some hfind
      have hmem : m.id ∈ ms.map (·.id) := List.mem_map_of_mem (List.mem_of_find?_eq_some hfind)
      simp only [Option.map_some, Function.comp_apply, hasParent_unplaced h, hmem, true_and,
        Message.linkedAmong]

/-- Every given enum is in the table with its parent, and no other enum is. -/
theorem enum?_ofElements : (ofElements ms es ss).symbols.enum? id
    = (es.find? (·.id = id)).map (Enum.linkedAmong (ms.map (·.id))) := by
  obtain ⟨-, -, henums, -⟩ := @foldl_placeMessage_frame (unplaced ms es ss) (ms.map (·.id))
  rw [ofElements_eq, enum?_foldl_placeEnum, SymbolTable.enum?, henums, ← SymbolTable.enum?,
    enum?_unplaced h]
  cases hfind : es.find? (·.id = id) with
  | none => rfl
  | some e =>
      obtain rfl : e.id = id := by simpa using List.find?_some hfind
      have hmem : e.id ∈ es.map (·.id) := List.mem_map_of_mem (List.mem_of_find?_eq_some hfind)
      simp only [Option.map_some, hasParent_foldl_placeMessage, hasParent_unplaced h, hmem,
        true_and, Enum.linkedAmong]

theorem service?_ofElements :
    (ofElements ms es ss).symbols.service? id = ss.find? (·.id = id) := by
  obtain ⟨-, -, hplaced⟩ := @foldl_placeEnum_frame
    ((ms.map (·.id)).foldl placeMessage (unplaced ms es ss)) (es.map (·.id))
  obtain ⟨-, -, -, hservices⟩ := @foldl_placeMessage_frame (unplaced ms es ss) (ms.map (·.id))
  rw [ofElements_eq, SymbolTable.service?, hplaced, hservices, unplaced, symbolsOf_eq]
  exact Table.get?_foldl_insert_of_nodup h.services id

omit id

/-- The messages below no other one are selected. -/
theorem messages_ofElements : (ofElements ms es ss).messages
    = (ms.map (·.id)).filter (parentName · ∉ ms.map (·.id)) := by
  obtain ⟨hmessages, -, -⟩ := @foldl_placeEnum_frame
    ((ms.map (·.id)).foldl placeMessage (unplaced ms es ss)) (es.map (·.id))
  rw [ofElements_eq, hmessages, messages_foldl_placeMessage]
  simp only [hasParent_unplaced h]
  rfl

/-- The enums below no message are selected. -/
theorem enums_ofElements : (ofElements ms es ss).enums
    = (es.map (·.id)).filter (parentName · ∉ ms.map (·.id)) := by
  obtain ⟨henums, -, -, -⟩ := @foldl_placeMessage_frame (unplaced ms es ss) (ms.map (·.id))
  rw [ofElements_eq, enums_foldl_placeEnum, henums]
  simp only [hasParent_foldl_placeMessage, hasParent_unplaced h]
  rfl

end Distinct

theorem services_ofElements : (ofElements ms es ss).services = ss.map (·.id) := by
  obtain ⟨-, hplaced, -⟩ := @foldl_placeEnum_frame
    ((ms.map (·.id)).foldl placeMessage (unplaced ms es ss)) (es.map (·.id))
  obtain ⟨-, hservices, -, -⟩ := @foldl_placeMessage_frame (unplaced ms es ss) (ms.map (·.id))
  rw [ofElements_eq, hplaced, hservices, unplaced]

end Api

/-! ## Elements without links -/

/-- A list is made of what has none of some parents, followed by what has the first one, the second
one and so on. -/
theorem perm_filter_parents {parents : List String} (h : parents.Nodup) (ids : List String) :
    (ids.filter (parentName · ∉ parents) ++
      parents.flatMap fun parent => ids.filter (parentName · = parent)).Perm ids := by
  induction parents with
  | nil => simp
  | cons parent parents ih =>
      obtain ⟨hparent, hparents⟩ := List.nodup_cons.1 h
      -- what has none of the later parents has the first one, or none at all
      have hfirst : ids.filter (parentName · = parent)
          = (ids.filter (parentName · ∉ parents)).filter (parentName · = parent) := by
        rw [List.filter_filter]
        refine List.filter_congr fun id _ => ?_
        by_cases hid : parentName id = parent
        · simp [hid, hparent]
        · simp [hid]
      have hnone : ids.filter (parentName · ∉ parent :: parents)
          = (ids.filter (parentName · ∉ parents)).filter
              fun id => !decide (parentName id = parent) := by
        rw [List.filter_filter]
        refine List.filter_congr fun id _ => ?_
        simp
      have hsplit := List.filter_append_perm (fun id => decide (parentName id = parent))
        (ids.filter (parentName · ∉ parents))
      rw [List.flatMap_cons, hfirst, hnone, ← List.append_assoc]
      exact ((List.perm_append_comm.trans hsplit).append_right _).trans (ih hparents)

/-- A message without links gets those that identifiers tell. -/
theorem Message.linkedAmong_of_unlinked {m : Message} (h : m.unlinked = m)
    {messageIds enumIds : List String} (hm : messageIds.Nodup) (he : enumIds.Nodup) :
    m.linkedAmong messageIds enumIds = { m with
      parent := if parentName m.id ∈ messageIds then some (parentName m.id) else none
      messages := messageIds.filter (parentName · = m.id)
      enums := enumIds.filter (parentName · = m.id) } := by
  have hparent : m.parent = none := congrArg Message.parent h.symm
  have hmessages : m.messages = [] := congrArg Message.messages h.symm
  have henums : m.enums = [] := congrArg Message.enums h.symm
  rw [linkedAmong, hparent, hmessages, henums, Api.foldl_appendOnce (hm.filter _),
    Api.foldl_appendOnce (he.filter _), List.nil_append, List.nil_append]

/-- The identifiers that the entry of a message lists as nested messages. -/
def SymbolTable.messagesIn (t : SymbolTable) (id : String) : List String :=
  ((t.message? id).map Message.messages).getD []

/-- The identifiers that the entry of a message lists as nested enums. -/
def SymbolTable.enumsIn (t : SymbolTable) (id : String) : List String :=
  ((t.message? id).map Message.enums).getD []

namespace Api

/-- The API has the given elements and no others, and changes nothing in them but links.  An element
whose identifier names a given message as its parent is nested in it, and every other one is
selected, in the order of the lists. -/
structure Nests (api : Api) (ms : List Message) (es : List Enum) (ss : List Service) : Prop where
  isSome_message? : ∀ id, (api.symbols.message? id).isSome ↔ id ∈ ms.map (·.id)
  isSome_enum? : ∀ id, (api.symbols.enum? id).isSome ↔ id ∈ es.map (·.id)
  isSome_service? : ∀ id, (api.symbols.service? id).isSome ↔ id ∈ ss.map (·.id)
  message : ∀ m ∈ ms, api.symbols.message? m.id = some
    { m with
      parent := if parentName m.id ∈ ms.map (·.id) then some (parentName m.id) else none
      messages := (ms.map (·.id)).filter (parentName · = m.id)
      enums := (es.map (·.id)).filter (parentName · = m.id) }
  enum : ∀ e ∈ es, api.symbols.enum? e.id = some
    { e with parent := if parentName e.id ∈ ms.map (·.id) then some (parentName e.id) else none }
  service : ∀ s ∈ ss, api.symbols.service? s.id = some s
  messages : api.messages = (ms.map (·.id)).filter (parentName · ∉ ms.map (·.id))
  enums : api.enums = (es.map (·.id)).filter (parentName · ∉ ms.map (·.id))
  services : api.services = ss.map (·.id)

variable {ms : List Message} {es : List Enum} {ss : List Service}

/-- The selected elements and those that messages list are all the given ones, each once. -/
theorem Nests.perm {api : Api} (h : api.Nests ms es ss) (hids : (ms.map (·.id)).Nodup) :
    (api.messages ++ (ms.map (·.id)).flatMap api.symbols.messagesIn).Perm (ms.map (·.id)) ∧
      (api.enums ++ (ms.map (·.id)).flatMap api.symbols.enumsIn).Perm (es.map (·.id)) := by
  have hmessagesIn : ∀ id ∈ ms.map (·.id),
      api.symbols.messagesIn id = (ms.map (·.id)).filter (parentName · = id) := by
    refine List.forall_mem_map.2 fun m hm => ?_
    rw [SymbolTable.messagesIn, h.message m hm, Option.map_some, Option.getD_some]
  have henumsIn : ∀ id ∈ ms.map (·.id),
      api.symbols.enumsIn id = (es.map (·.id)).filter (parentName · = id) := by
    refine List.forall_mem_map.2 fun m hm => ?_
    rw [SymbolTable.enumsIn, h.message m hm, Option.map_some, Option.getD_some]
  constructor
  · rw [h.messages, List.flatMap_congr hmessagesIn]
    exact perm_filter_parents hids _
  · rw [h.enums, List.flatMap_congr henumsIn]
    exact perm_filter_parents hids _

/-- Unless a message takes the place of the root, links lead from shorter identifiers to longer
ones. -/
theorem Nests.linked {api : Api} (h : api.Nests ms es ss)
    (hroot : ∀ m ∈ ms, m.id ≠ Identifier.root) : api.symbols.Linked := by
  have hshorter : ∀ id, parentName id ∈ ms.map (·.id) → (parentName id).length < id.length := by
    intro id hid
    obtain ⟨m, hm, hparent⟩ := List.mem_map.1 hid
    exact Identifier.length_parentName_lt (hparent ▸ hroot m hm)
  have hparent : ∀ id outer,
      (if parentName id ∈ ms.map (·.id) then some (parentName id) else none) = some outer →
        outer.length < id.length := by
    intro id outer houter
    split at houter
    · rename_i hid
      exact Option.some.inj houter ▸ hshorter id hid
    · cases houter
  refine ⟨fun id m hm => ?message, fun id e he => ?enum, fun id s hs => ?service⟩
  case message =>
    have hid := (h.isSome_message? id).1 (by rw [hm, Option.isSome_some])
    obtain ⟨n, hn, rfl⟩ := List.mem_map.1 hid
    obtain rfl := Option.some.inj (hm.symm.trans (h.message n hn))
    have hbelow : ∀ inner, parentName inner = n.id → n.id.length < inner.length :=
      fun inner hname => hname ▸ hshorter inner (hname ▸ List.mem_map_of_mem hn)
    refine ⟨rfl, hparent n.id, fun inner hinner => ?_, fun inner hinner => ?_⟩
    · obtain ⟨hmem, hname⟩ := List.mem_filter.1 hinner
      exact ⟨(h.isSome_message? inner).2 hmem, hbelow inner (of_decide_eq_true hname)⟩
    · obtain ⟨hmem, hname⟩ := List.mem_filter.1 hinner
      exact ⟨(h.isSome_enum? inner).2 hmem, hbelow inner (of_decide_eq_true hname)⟩
  case enum =>
    have hid := (h.isSome_enum? id).1 (by rw [he, Option.isSome_some])
    obtain ⟨n, hn, rfl⟩ := List.mem_map.1 hid
    obtain rfl := Option.some.inj (he.symm.trans (h.enum n hn))
    exact ⟨rfl, hparent n.id⟩
  case service =>
    have hid := (h.isSome_service? id).1 (by rw [hs, Option.isSome_some])
    obtain ⟨n, hn, rfl⟩ := List.mem_map.1 hid
    rw [← Option.some.inj (hs.symm.trans (h.service n hn))]

/-- **Plain elements are nested as their identifiers tell**, whatever their order and however deep
they are nested.  Elements with distinct identifiers and without links, none of them a message at
the root, make an API that has just these elements.  One whose identifier names a given message as
its parent is listed there and names it, every other one has no parent and is selected; so each is
listed once, in the order of the lists, and no walk along the links comes back. -/
theorem nests_ofElements (hids : DistinctElements ms es ss)
    (hroot : ∀ m ∈ ms, m.id ≠ Identifier.root) (hmessages : ∀ m ∈ ms, m.unlinked = m)
    (henums : ∀ e ∈ es, e.unlinked = e) :
    let api := ofElements ms es ss
    api.Nests ms es ss ∧
      (api.messages ++ (ms.map (·.id)).flatMap api.symbols.messagesIn).Perm (ms.map (·.id)) ∧
      (api.enums ++ (ms.map (·.id)).flatMap api.symbols.enumsIn).Perm (es.map (·.id)) ∧
      api.symbols.Linked := by
  have hnests : (ofElements ms es ss).Nests ms es ss := by
    refine ⟨fun id => ?_, fun id => ?_, fun id => ?_, fun m hm => ?message, fun e he => ?enum,
      fun s hs => ?service, messages_ofElements hids, enums_ofElements hids, services_ofElements⟩
    · rw [message?_ofElements hids, Option.isSome_map, isSome_find?_key]
    · rw [enum?_ofElements hids, Option.isSome_map, isSome_find?_key]
    · rw [service?_ofElements hids, isSome_find?_key]
    case message =>
      rw [message?_ofElements hids, find?_of_nodup hids.messages hm, Option.map_some,
        Message.linkedAmong_of_unlinked (hmessages m hm) hids.messages hids.enums]
    case enum =>
      have hparent : e.parent = none := congrArg Enum.parent (henums e he).symm
      rw [enum?_ofElements hids, find?_of_nodup hids.enums he, Option.map_some, Enum.linkedAmong,
        hparent]
    case service => rw [service?_ofElements hids, find?_of_nodup hids.services hs]
  obtain ⟨honce, honceEnums⟩ := hnests.perm hids.messages
  exact ⟨hnests, honce, honceEnums, hnests.linked hroot⟩

end Api

/-- Messages of a library, each before the one that it is nested in. -/
def looseMessages : List Message :=
  [{ id := ".library.Book.Page.Line", name := "Line", package := "library" },
    { id := ".library.Book.Page", name := "Page", package := "library" },
    { id := ".library.Shelf", name := "Shelf", package := "library" },
    { id := ".library.Book", name := "Book", package := "library" }]

/-- Enums of the library, one of them nested. -/
def looseEnums : List Enum :=
  [{ id := ".library.Book.Genre", name := "Genre", package := "library" },
    { id := ".library.Color", name := "Color", package := "library" }]

theorem looseElements_nested :
    DistinctElements looseMessages looseEnums [{ id := ".library.Desk" }] ∧
      (∀ m ∈ looseMessages, m.id ≠ Identifier.root) ∧ (∀ m ∈ looseMessages, m.unlinked = m) ∧
      (∀ e ∈ looseEnums, e.unlinked = e) ∧
      (Api.ofElements looseMessages looseEnums [{ id := ".library.Desk" }]).Nests looseMessages
        looseEnums [{ id := ".library.Desk" }] ∧
      (Api.ofElements looseMessages looseEnums [{ id := ".library.Desk" }]).messages
        = [".library.Shelf", ".library.Book"] ∧
      (Api.ofElements looseMessages looseEnums [{ id := ".library.Desk" }]).symbols.Linked := by
  have hids : DistinctElements looseMessages looseEnums [{ id := ".library.Desk" }] :=
    ⟨by decide, by decide, by decide⟩
  have hroot : ∀ m ∈ looseMessages, m.id ≠ Identifier.root := by decide
  have hmessages : ∀ m ∈ looseMessages, m.unlinked = m := by decide
  have henums : ∀ e ∈ looseEnums, e.unlinked = e := by decide
  obtain ⟨hnests, -, -, hlinked⟩ := Api.nests_ofElements hids hroot hmessages henums
  exact ⟨hids, hroot, hmessages, henums, hnests, hnests.messages.trans (by decide), hlinked⟩

end ClientGen
