import ClientGen.Proofs.Links

/-!
# Links made from identifiers

An API can be built from plain lists of elements: each message and each enum is hung below the
message that its identifier names as its parent, or selected if there is no such message.

* `Api.message?_foldl_placeMessage`, `message?_foldl_placeEnum` — what hanging elements below
  messages does to the entries of a table, for one element and then for a list of them.
* `Api.symbolsOf_eq` — the table that it starts from.
* `Api.LinkedByName` — the links of an API are those that the identifiers tell.
* `Api.LinkedByName.rebuilt_eq` — such an API is the same again after its links were erased and it
  was built anew from its elements.
-/

namespace ClientGen

open Identifier (parentName)

/-! ## Hanging elements below messages -/

namespace Api

theorem foldl_appendOnce {ids known : List String} (h : (known ++ ids).Nodup) :
    ids.foldl appendOnce known = known ++ ids := by
  induction ids generalizing known with
  | nil => rw [List.foldl_nil, List.append_nil]
  | cons id ids ih =>
      have hnew : id ∉ known := fun hid =>
        (List.nodup_append'.1 h).2.2 hid (List.mem_cons_self ..)
      rw [List.append_cons] at h
      rw [List.foldl_cons, appendOnce, if_neg hnew, ih h, ← List.append_cons]

theorem foldl_appendOnce_filter_cons (k id : String) (ids known : List String) :
    (ids.filter (parentName · = k)).foldl appendOnce
        (if parentName id = k then appendOnce known id else known)
      = ((id :: ids).filter (parentName · = k)).foldl appendOnce known := by
  by_cases hpk : parentName id = k
  · rw [if_pos hpk, List.filter_cons_of_pos (by simpa using hpk), List.foldl_cons]
  · rw [if_neg hpk, List.filter_cons_of_neg (by simpa using hpk)]

theorem ite_mem_cons {α : Type} {p : Prop} [Decidable p] (k id : String) (ids : List String)
    (a b : α) : (if k ∈ ids ∧ p then a else if k = id ∧ p then a else b)
      = if k ∈ id :: ids ∧ p then a else b := by
  simp only [List.mem_cons]
  split_ifs <;> tauto

/-- Is the element to be hung below a message? -/
def HasParent (api : Api) (id : String) : Prop :=
  (api.symbols.message? (parentName id)).isSome

instance (api : Api) (id : String) : Decidable (api.HasParent id) :=
  inferInstanceAs (Decidable (_ = true))

section Placing

variable {api : Api}

/-- A message that the table has is not the parent that the table lacks. -/
theorem parentName_ne_of_not_hasParent {id k : String} (h : ¬api.HasParent id) {m : Message}
    (hk : api.symbols.message? k = some m) : parentName id ≠ k := by
  rintro rfl
  exact h (Option.isSome_iff_exists.2 ⟨m, hk⟩)

/-! ### Messages -/

theorem placeMessage_of_hasParent {id : String} (h : api.HasParent id) :
    api.placeMessage id = { api with
      symbols :=
        (api.symbols.modifyMessage (parentName id) fun p =>
          { p with messages := appendOnce p.messages id }).modifyMessage id fun m =>
            { m with parent := some (parentName id) } } := by
  obtain ⟨p, hp⟩ := Option.isSome_iff_exists.1 h
  simp only [placeMessage, hp]

theorem placeMessage_of_not_hasParent {id : String} (h : ¬api.HasParent id) :
    api.placeMessage id = { api with messages := api.messages ++ [id] } := by
  have hp : api.symbols.message? (parentName id) = none := Option.not_isSome_iff_eq_none.1 h
  simp only [placeMessage, hp]

/-- Placing a message adds it to the message that its identifier names, if there is one, and nothing
else. -/
theorem message?_placeMessage (id k : String) :
    (api.placeMessage id).symbols.message? k = (api.symbols.message? k).map fun m =>
      { m with
        messages := if parentName id = k then appendOnce m.messages id else m.messages
        parent := if k = id ∧ api.HasParent k then some (parentName k) else m.parent } := by
  by_cases h : api.HasParent id
  · rw [placeMessage_of_hasParent h, SymbolTable.message?_modifyMessage,
      SymbolTable.message?_modifyMessage]
    cases hk : api.symbols.message? k with
    | none => simp
    | some m =>
        by_cases hid : k = id
        · subst hid
          -- the root, and only the root, is its own parent, and then both changes meet in it
          by_cases hself : k = parentName k
          · simp [← hself, h]
          · simp [hself, Ne.symm hself, h]
        · by_cases hpk : k = parentName id
          · simp [hid, ← hpk]
          · simp [hid, hpk, Ne.symm hpk]
  · rw [placeMessage_of_not_hasParent h]
    cases hk : api.symbols.message? k with
    | none => rfl
    | some m =>
        have hne : parentName id ≠ k := parentName_ne_of_not_hasParent h hk
        have hnot : ¬(k = id ∧ api.HasParent k) := by
          rintro ⟨rfl, hparent⟩
          exact h hparent
        simp only [Option.map_some, if_neg hne, if_neg hnot]

theorem hasParent_placeMessage {id k : String} :
    (api.placeMessage id).HasParent k ↔ api.HasParent k := by
  rw [HasParent, message?_placeMessage, Option.isSome_map, HasParent]

/-- What placing messages does to each message, whatever their order. -/
theorem message?_foldl_placeMessage (ids : List String) (k : String) :
    (ids.foldl placeMessage api).symbols.message? k = (api.symbols.message? k).map fun m =>
      { m with
        messages := (ids.filter (parentName · = k)).foldl appendOnce m.messages
        parent := if k ∈ ids ∧ api.HasParent k then some (parentName k) else m.parent } := by
  induction ids generalizing api with
  | nil => simp
  | cons id ids ih =>
      rw [List.foldl_cons, ih, message?_placeMessage, Option.map_map]
      refine congrArg (Option.map · _) (funext fun m => ?_)
      simp only [Function.comp_apply, hasParent_placeMessage, foldl_appendOnce_filter_cons,
        ite_mem_cons]

theorem hasParent_foldl_placeMessage {ids : List String} {k : String} :
    (ids.foldl placeMessage api).HasParent k ↔ api.HasParent k := by
  rw [HasParent, message?_foldl_placeMessage, Option.isSome_map, HasParent]

/-- What is hung below no message is selected. -/
theorem messages_foldl_placeMessage (ids : List String) :
    (ids.foldl placeMessage api).messages
      = api.messages ++ ids.filter fun id => ¬api.HasParent id := by
  induction ids generalizing api with
  | nil => simp
  | cons id ids ih =>
      rw [List.foldl_cons, ih]
      simp only [hasParent_placeMessage]
      by_cases h : api.HasParent id
      · rw [placeMessage_of_hasParent h, List.filter_cons_of_neg (by simpa using h)]
      · rw [placeMessage_of_not_hasParent h, List.filter_cons_of_pos (by simpa using h),
          List.append_assoc]
        rfl

/-- Placing messages leaves everything but messages as it is. -/
theorem foldl_placeMessage_frame (ids : List String) :
    (ids.foldl placeMessage api).enums = api.enums ∧
      (ids.foldl placeMessage api).services = api.services ∧
      (ids.foldl placeMessage api).symbols.enums = api.symbols.enums ∧
      (ids.foldl placeMessage api).symbols.services = api.symbols.services := by
  induction ids generalizing api with
  | nil => exact ⟨rfl, rfl, rfl, rfl⟩
  | cons id ids ih =>
      obtain ⟨henums, hservices, hsymbolEnums, hsymbolServices⟩ := @ih (api.placeMessage id)
      rw [List.foldl_cons, henums, hservices, hsymbolEnums, hsymbolServices]
      by_cases h : api.HasParent id
      · rw [placeMessage_of_hasParent h]
        exact ⟨rfl, rfl, rfl, rfl⟩
      · rw [placeMessage_of_not_hasParent h]
        exact ⟨rfl, rfl, rfl, rfl⟩

/-! ### Enums -/

theorem placeEnum_of_hasParent {id : String} (h : api.HasParent id) :
    api.placeEnum id = { api with
      symbols :=
        (api.symbols.modifyMessage (parentName id) fun p =>
          { p with enums := appendOnce p.enums id }).modifyEnum id fun e =>
            { e with parent := some (parentName id) } } := by
  obtain ⟨p, hp⟩ := Option.isSome_iff_exists.1 h
  simp only [placeEnum, hp]

theorem placeEnum_of_not_hasParent {id : String} (h : ¬api.HasParent id) :
    api.placeEnum id = { api with enums := api.enums ++ [id] } := by
  have hp : api.symbols.message? (parentName id) = none := Option.not_isSome_iff_eq_none.1 h
  simp only [placeEnum, hp]

theorem message?_placeEnum (id k : String) :
    (api.placeEnum id).symbols.message? k = (api.symbols.message? k).map fun m =>
      { m with enums := if parentName id = k then appendOnce m.enums id else m.enums } := by
  by_cases h : api.HasParent id
  · have hmessage : (api.placeEnum id).symbols.message? k
        = (api.symbols.modifyMessage (parentName id) fun p =>
          { p with enums := appendOnce p.enums id }).message? k := by
      rw [placeEnum_of_hasParent h]
      rfl
    rw [hmessage, SymbolTable.message?_modifyMessage]
    by_cases hpk : k = parentName id
    · simp only [if_pos hpk, if_pos hpk.symm]
    · simp [if_neg hpk, if_neg (Ne.symm hpk)]
  · rw [placeEnum_of_not_hasParent h]
    cases hk : api.symbols.message? k with
    | none => rfl
    | some m =>
        have hne : parentName id ≠ k := parentName_ne_of_not_hasParent h hk
        simp only [Option.map_some, if_neg hne]

theorem enum?_placeEnum (id k : String) :
    (api.placeEnum id).symbols.enum? k = (api.symbols.enum? k).map fun e =>
      { e with parent := if k = id ∧ api.HasParent k then some (parentName k) else e.parent } := by
  by_cases h : api.HasParent id
  · have henum : (api.placeEnum id).symbols.enum? k
        = (api.symbols.modifyEnum id fun e =>
          { e with parent := some (parentName id) }).enum? k := by
      rw [placeEnum_of_hasParent h]
      rfl
    rw [henum, SymbolTable.enum?_modifyEnum]
    by_cases hid : k = id
    · subst hid
      simp [h]
    · simp [hid]
  · rw [placeEnum_of_not_hasParent h]
    have hnot : ¬(k = id ∧ api.HasParent k) := by
      rintro ⟨rfl, hparent⟩
      exact h hparent
    simp [hnot]

theorem hasParent_placeEnum {id k : String} :
    (api.placeEnum id).HasParent k ↔ api.HasParent k := by
  rw [HasParent, message?_placeEnum, Option.isSome_map, HasParent]

/-- What placing enums does to each message and to each enum, whatever their order. -/
theorem message?_foldl_placeEnum (ids : List String) (k : String) :
    (ids.foldl placeEnum api).symbols.message? k = (api.symbols.message? k).map fun m =>
      { m with enums := (ids.filter (parentName · = k)).foldl appendOnce m.enums } := by
  induction ids generalizing api with
  | nil => simp
  | cons id ids ih =>
      rw [List.foldl_cons, ih, message?_placeEnum, Option.map_map]
      refine congrArg (Option.map · _) (funext fun m => ?_)
      simp only [Function.comp_apply, foldl_appendOnce_filter_cons]

theorem enum?_foldl_placeEnum (ids : List String) (k : String) :
    (ids.foldl placeEnum api).symbols.enum? k = (api.symbols.enum? k).map fun e =>
      { e with parent := if k ∈ ids ∧ api.HasParent k then some (parentName k) else e.parent } := by
  induction ids generalizing api with
  | nil => simp
  | cons id ids ih =>
      rw [List.foldl_cons, ih, enum?_placeEnum, Option.map_map]
      refine congrArg (Option.map · _) (funext fun e => ?_)
      simp only [Function.comp_apply, hasParent_placeEnum, ite_mem_cons]

theorem enums_foldl_placeEnum (ids : List String) :
    (ids.foldl placeEnum api).enums = api.enums ++ ids.filter fun id => ¬api.HasParent id := by
  induction ids generalizing api with
  | nil => simp
  | cons id ids ih =>
      rw [List.foldl_cons, ih]
      simp only [hasParent_placeEnum]
      by_cases h : api.HasParent id
      · rw [placeEnum_of_hasParent h, List.filter_cons_of_neg (by simpa using h)]
      · rw [placeEnum_of_not_hasParent h, List.filter_cons_of_pos (by simpa using h),
          List.append_assoc]
        rfl

theorem foldl_placeEnum_frame (ids : List String) :
    (ids.foldl placeEnum api).messages = api.messages ∧
      (ids.foldl placeEnum api).services = api.services ∧
      (ids.foldl placeEnum api).symbols.services = api.symbols.services := by
  induction ids generalizing api with
  | nil => exact ⟨rfl, rfl, rfl⟩
  | cons id ids ih =>
      obtain ⟨hmessages, hservices, hsymbolServices⟩ := @ih (api.placeEnum id)
      rw [List.foldl_cons, hmessages, hservices, hsymbolServices]
      by_cases h : api.HasParent id
      · rw [placeEnum_of_hasParent h]
        exact ⟨rfl, rfl, rfl⟩
      · rw [placeEnum_of_not_hasParent h]
        exact ⟨rfl, rfl, rfl⟩

end Placing

end Api

/-! ## Tables of plain lists -/

/-- Entries put under their own keys are found there. -/
theorem Table.get?_foldl_insert {α : Type} {f : String → Option α} {key : α → String}
    {items : List α} (h : ∀ a ∈ items, f (key a) = some a) (t : Table String α) (k : String) :
    (items.foldl (fun t a => t.insert (key a) a) t).get? k
      = if k ∈ items.map key then f k else t.get? k := by
  induction items generalizing t with
  | nil => simp
  | cons a items ih =>
      rw [List.foldl_cons, ih fun b hb => h b (List.mem_cons_of_mem _ hb), get?_insert']
      by_cases hk : k = key a
      · subst hk
        simp [h a (List.mem_cons_self ..)]
      · simp [hk]

namespace SymbolTable

theorem foldl_addMessage_eq (ms : List Message) (t : SymbolTable) :
    ms.foldl addMessage t
      = { t with messages := ms.foldl (fun u m => u.insert m.id m) t.messages } := by
  induction ms generalizing t with
  | nil => rfl
  | cons m ms ih => rw [List.foldl_cons, ih, List.foldl_cons, addMessage]

theorem foldl_addEnum_eq (es : List Enum) (t : SymbolTable) :
    es.foldl addEnum t = { t with enums := es.foldl (fun u e => u.insert e.id e) t.enums } := by
  induction es generalizing t with
  | nil => rfl
  | cons e es ih => rw [List.foldl_cons, ih, List.foldl_cons, addEnum]

theorem foldl_addService_eq (ss : List Service) (t : SymbolTable) :
    ss.foldl addService t
      = { t with services := ss.foldl (fun u s => u.insert s.id s) t.services } := by
  induction ss generalizing t with
  | nil => rfl
  | cons s ss ih => rw [List.foldl_cons, ih, List.foldl_cons, addService]

end SymbolTable

theorem Api.symbolsOf_eq (ms : List Message) (es : List Enum) (ss : List Service) :
    symbolsOf ms es ss =
      { messages := ms.foldl (fun u m => u.insert m.id m) ∅
        enums := es.foldl (fun u e => u.insert e.id e) ∅
        services := ss.foldl (fun u s => u.insert s.id s) ∅ } := by
  rw [symbolsOf, SymbolTable.foldl_addMessage_eq, SymbolTable.foldl_addEnum_eq,
    SymbolTable.foldl_addService_eq]

/-! ## APIs that are linked by name -/

/-- The message without its links. -/
def Message.unlinked (m : Message) : Message :=
  { m with parent := none, messages := [], enums := [] }

/-- The enum without its link. -/
def Enum.unlinked (e : Enum) : Enum :=
  { e with parent := none }

namespace Api

/-- An API built from the elements that another one has for some identifiers, all links erased. -/
def rebuilt (api : Api) (messageIds enumIds serviceIds : List String) : Api :=
  ofElements ((messageIds.filterMap api.symbols.message?).map Message.unlinked)
    ((enumIds.filterMap api.symbols.enum?).map Enum.unlinked)
    (serviceIds.filterMap api.symbols.service?)

/-- The lists are those of all identifiers, and the links and the selected elements are those that
`parentName` tells: the links inwards and the selected elements in the order of the lists. -/
structure LinkedByName (api : Api) (messageIds enumIds serviceIds : List String) : Prop where
  messageIds_nodup : messageIds.Nodup
  enumIds_nodup : enumIds.Nodup
  isSome_message? : ∀ id, (api.symbols.message? id).isSome ↔ id ∈ messageIds
  isSome_enum? : ∀ id, (api.symbols.enum? id).isSome ↔ id ∈ enumIds
  isSome_service? : ∀ id, (api.symbols.service? id).isSome ↔ id ∈ serviceIds
  message : ∀ id m, api.symbols.message? id = some m →
    m.messages = messageIds.filter (parentName · = id) ∧
    m.enums = enumIds.filter (parentName · = id) ∧
    m.parent = if api.HasParent id then some (parentName id) else none
  enum : ∀ id e, api.symbols.enum? id = some e →
    e.parent = if api.HasParent id then some (parentName id) else none
  messages : api.messages = messageIds.filter fun id => ¬api.HasParent id
  enums : api.enums = enumIds.filter fun id => ¬api.HasParent id
  services : api.services = serviceIds

section Rebuilding

variable {api : Api} {messageIds enumIds serviceIds : List String}

/-- Look-ups that find their own identifiers give back the identifiers looked up. -/
theorem map_filterMap_eq_self {α : Type} {find : String → Option α} {key : α → String}
    {ids : List String} (hkey : ∀ id a, find id = some a → key a = id)
    (hfound : ∀ id, (find id).isSome ↔ id ∈ ids) : (ids.filterMap find).map key = ids := by
  have hall : ∀ id ∈ ids, (find id).map key = some id := by
    intro id hid
    obtain ⟨a, ha⟩ := Option.isSome_iff_exists.1 ((hfound id).2 hid)
    rw [ha, Option.map_some, hkey id a ha]
  rw [List.map_filterMap, List.filterMap_congr hall, List.filterMap_some]

/-- The table of such look-ups, changed in a way that keeps the keys, has the changed entries. -/
theorem get?_foldl_insert_filterMap {α : Type} {find : String → Option α} {key : α → String}
    {ids : List String} {g : α → α} (hg : ∀ a, key (g a) = key a)
    (hkey : ∀ id a, find id = some a → key a = id)
    (hfound : ∀ id, (find id).isSome ↔ id ∈ ids) (k : String) :
    (((ids.filterMap find).map g).foldl (fun t a => t.insert (key a) a) (∅ : Table String α)).get? k
      = (find k).map g := by
  have hkeys : ((ids.filterMap find).map g).map key = ids := by
    have hcomp : key ∘ g = key := funext hg
    rw [List.map_map, hcomp]
    exact map_filterMap_eq_self hkey hfound
  have hentries : ∀ a ∈ (ids.filterMap find).map g, (find (key a)).map g = some a := by
    intro a ha
    obtain ⟨b, hb, rfl⟩ := List.mem_map.1 ha
    obtain ⟨id, -, hid⟩ := List.mem_filterMap.1 hb
    rw [hg, hkey id b hid, hid, Option.map_some]
  rw [Table.get?_foldl_insert (f := fun id => (find id).map g) hentries, hkeys]
  split
  · rfl
  · rename_i hk
    rw [Option.not_isSome_iff_eq_none.1 (mt (hfound k).1 hk)]
    rfl

/-- The table that the elements without links start from. -/
theorem symbolsOf_unlinked (hlinked : api.symbols.Linked)
    (h : api.LinkedByName messageIds enumIds serviceIds) :
    symbolsOf ((messageIds.filterMap api.symbols.message?).map Message.unlinked)
        ((enumIds.filterMap api.symbols.enum?).map Enum.unlinked)
        (serviceIds.filterMap api.symbols.service?)
      = { messages := api.symbols.messages.mapValues Message.unlinked
          enums := api.symbols.enums.mapValues Enum.unlinked
          services := api.symbols.services } := by
  rw [symbolsOf_eq]
  refine SymbolTable.ext_get? (fun id => ?_) (fun id => ?_) fun id => ?_
  · refine Eq.trans ?_ (Table.get?_mapValues Message.unlinked api.symbols.messages id).symm
    exact get?_foldl_insert_filterMap (g := Message.unlinked) (fun _ => rfl)
      (fun id m hm => (hlinked.message id m hm).id) h.isSome_message? id
  · refine Eq.trans ?_ (Table.get?_mapValues Enum.unlinked api.symbols.enums id).symm
    exact get?_foldl_insert_filterMap (g := Enum.unlinked) (fun _ => rfl)
      (fun id e he => (hlinked.enum id e he).id) h.isSome_enum? id
  · have hservice := get?_foldl_insert_filterMap (g := fun s => s) (fun _ => rfl) hlinked.service
      h.isSome_service? id
    rwa [List.map_id', Option.map_id'] at hservice

/-- The API that the elements without links start from. -/
def unlinked (api : Api) (serviceIds : List String) : Api where
  services := serviceIds
  symbols :=
    { messages := api.symbols.messages.mapValues Message.unlinked
      enums := api.symbols.enums.mapValues Enum.unlinked
      services := api.symbols.services }

theorem message?_unlinked (id : String) :
    (api.unlinked serviceIds).symbols.message? id
      = (api.symbols.message? id).map Message.unlinked :=
  Table.get?_mapValues Message.unlinked api.symbols.messages id

theorem enum?_unlinked (id : String) :
    (api.unlinked serviceIds).symbols.enum? id = (api.symbols.enum? id).map Enum.unlinked :=
  Table.get?_mapValues Enum.unlinked api.symbols.enums id

theorem hasParent_unlinked {id : String} :
    (api.unlinked serviceIds).HasParent id ↔ api.HasParent id := by
  rw [HasParent, message?_unlinked, Option.isSome_map, HasParent]

theorem rebuilt_eq_foldl (hlinked : api.symbols.Linked)
    (h : api.LinkedByName messageIds enumIds serviceIds) :
    api.rebuilt messageIds enumIds serviceIds
      = enumIds.foldl placeEnum (messageIds.foldl placeMessage (api.unlinked serviceIds)) := by
  have hmessages : ((messageIds.filterMap api.symbols.message?).map Message.unlinked).map
      (·.id) = messageIds := by
    rw [List.map_map]
    exact map_filterMap_eq_self (fun id m hm => (hlinked.message id m hm).id) h.isSome_message?
  have henums : ((enumIds.filterMap api.symbols.enum?).map Enum.unlinked).map (·.id)
      = enumIds := by
    rw [List.map_map]
    exact map_filterMap_eq_self (fun id e he => (hlinked.enum id e he).id) h.isSome_enum?
  have hservices : (serviceIds.filterMap api.symbols.service?).map (·.id) = serviceIds :=
    map_filterMap_eq_self hlinked.service h.isSome_service?
  rw [rebuilt, ofElements, hmessages, henums, hservices, symbolsOf_unlinked hlinked h]
  rfl

/-- The message gets back the links that were erased. -/
theorem LinkedByName.relink_message (h : api.LinkedByName messageIds enumIds serviceIds)
    {id : String} {m : Message} (hm : api.symbols.message? id = some m) :
    { m.unlinked with
      messages := (messageIds.filter (parentName · = id)).foldl appendOnce m.unlinked.messages
      enums := (enumIds.filter (parentName · = id)).foldl appendOnce m.unlinked.enums
      parent :=
        if id ∈ messageIds ∧ api.HasParent id then some (parentName id)
        else m.unlinked.parent } = m := by
  obtain ⟨hmessages, henums, hparent⟩ := h.message id m hm
  have hid : id ∈ messageIds := (h.isSome_message? id).1 (by rw [hm, Option.isSome_some])
  have hmessageIds : m.messages.foldl appendOnce [] = m.messages := by
    rw [hmessages]
    exact foldl_appendOnce (h.messageIds_nodup.filter _)
  have henumIds : m.enums.foldl appendOnce [] = m.enums := by
    rw [henums]
    exact foldl_appendOnce (h.enumIds_nodup.filter _)
  simp only [Message.unlinked, hid, true_and, ← hmessages, ← henums, ← hparent, hmessageIds,
    henumIds]

theorem LinkedByName.relink_enum (h : api.LinkedByName messageIds enumIds serviceIds)
    {id : String} {e : Enum} (he : api.symbols.enum? id = some e) :
    { e.unlinked with
      parent :=
        if id ∈ enumIds ∧ api.HasParent id then some (parentName id) else e.unlinked.parent }
      = e := by
  have hid : id ∈ enumIds := (h.isSome_enum? id).1 (by rw [he, Option.isSome_some])
  simp only [Enum.unlinked, hid, true_and, ← h.enum id e he]

/-- **Erased links come back** when they are those that `parentName` tells. -/
theorem LinkedByName.rebuilt_eq (hlinked : api.symbols.Linked)
    (h : api.LinkedByName messageIds enumIds serviceIds) :
    (api.rebuilt messageIds enumIds serviceIds).messages = api.messages ∧
      (api.rebuilt messageIds enumIds serviceIds).enums = api.enums ∧
      (api.rebuilt messageIds enumIds serviceIds).services = api.services ∧
      (api.rebuilt messageIds enumIds serviceIds).symbols = api.symbols := by
  obtain ⟨hmessages, hservices, hsymbolServices⟩ :=
    @foldl_placeEnum_frame (messageIds.foldl placeMessage (api.unlinked serviceIds)) enumIds
  obtain ⟨henums', hservices', hsymbolEnums', hsymbolServices'⟩ :=
    @foldl_placeMessage_frame (api.unlinked serviceIds) messageIds
  rw [rebuilt_eq_foldl hlinked h]
  refine ⟨?messages, ?enums, ?services, SymbolTable.ext_get? ?message? ?enum? ?service?⟩
  case messages =>
    rw [hmessages, messages_foldl_placeMessage, h.messages]
    simp only [hasParent_unlinked]
    rfl
  case enums =>
    rw [enums_foldl_placeEnum, henums', h.enums]
    simp only [hasParent_foldl_placeMessage, hasParent_unlinked]
    rfl
  case services => rw [hservices, hservices', h.services]; rfl
  case message? =>
    intro id
    rw [message?_foldl_placeEnum, message?_foldl_placeMessage, message?_unlinked]
    cases hm : api.symbols.message? id with
    | none => rfl
    | some m =>
        simp only [Option.map_some, hasParent_unlinked]
        exact congrArg some (h.relink_message hm)
  case enum? =>
    intro id
    have henum : (messageIds.foldl placeMessage (api.unlinked serviceIds)).symbols.enum? id
        = (api.symbols.enum? id).map Enum.unlinked := by
      rw [SymbolTable.enum?, hsymbolEnums']
      exact enum?_unlinked id
    rw [enum?_foldl_placeEnum, henum]
    cases he : api.symbols.enum? id with
    | none => rfl
    | some e =>
        simp only [Option.map_some, hasParent_foldl_placeMessage, hasParent_unlinked]
        exact congrArg some (h.relink_enum he)
  case service? =>
    intro id
    rw [SymbolTable.service?, hsymbolServices, hsymbolServices']
    rfl

end Rebuilding

end Api

end ClientGen
