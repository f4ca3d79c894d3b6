import ClientGen.Proofs.Building
import ClientGen.Proofs.GoTypes

/-!
# Links between the entries of a symbol table

Whatever the files are — identifiers may repeat, names may be empty or have dots in them — an entry
of their table can be followed.  A later registration may replace an entry together with its links,
but never takes an identifier out, and an identifier is longer than that of the element around it.

* `SymbolTable.Linked` — each entry stands under its own identifier, what a message lists as nested
  is in the table, and links lead from shorter identifiers to longer ones.
* `SymbolTable.linked_ofFiles`, `Api.linked_ofCompiled`, `GoCodec.linked_withWellKnownTypes` — the
  tables of files, of an API and of an API with stand-ins are linked.
-/

namespace ClientGen

/-! ## Longer identifiers -/

theorem Identifier.length_lt_child (parent name : String) :
    parent.length < (child parent name).length := by
  have hdot : ".".length = 1 := rfl
  rw [child, String.length_append, String.length_append]
  omega

/-- An identifier is longer than that of the message around it. -/
theorem Declaration.length_parent_lt {α : Type} [Named α] (d : Declaration α) {outer : String}
    (h : d.parent = some outer) : outer.length < d.id.length := by
  rw [Position.parent] at h
  split at h
  · cases h
  · rw [← Option.some.inj h]
    exact Identifier.length_lt_child d.scope (nameOf d.item)

theorem Declaration.length_lt_of_nested {α : Type} [Named α] {d : Declaration MessageDescriptor}
    {number : Int} {items : List α} {e : Declaration α}
    (h : e ∈ d.inside.declare number items) : d.id.length < e.id.length := by
  rw [Declaration.id_of_mem_declare h, Declaration.scope_inside]
  exact Identifier.length_lt_child d.id (nameOf e.item)

/-! ## Linked tables -/

/-- The message is the entry of its own identifier.  What it lists as nested is in the table under a
longer identifier, and the identifier of the message around it is shorter. -/
structure Message.LinkedIn (t : SymbolTable) (key : String) (m : Message) : Prop where
  id : m.id = key
  parent : ∀ outer, m.parent = some outer → outer.length < key.length
  messages : ∀ inner ∈ m.messages, (t.message? inner).isSome ∧ key.length < inner.length
  enums : ∀ inner ∈ m.enums, (t.enum? inner).isSome ∧ key.length < inner.length

/-- The enum is the entry of its own identifier, and the identifier of the message around it is
shorter. -/
structure Enum.LinkedAt (key : String) (e : Enum) : Prop where
  id : e.id = key
  parent : ∀ outer, e.parent = some outer → outer.length < key.length

/-- Every entry is found under its own identifier, and its links lead to entries in such a way that
no walk along them comes back. -/
structure SymbolTable.Linked (t : SymbolTable) : Prop where
  message : ∀ id m, t.message? id = some m → m.LinkedIn t id
  enum : ∀ id e, t.enum? id = some e → e.LinkedAt id
  service : ∀ id s, t.service? id = some s → s.id = id

/-- Links survive when the table keeps its identifiers, whatever becomes of the entries. -/
theorem Message.LinkedIn.mono {t u : SymbolTable} {id : String} {m : Message}
    (h : m.LinkedIn t id) (hm : ∀ id, (t.message? id).isSome → (u.message? id).isSome)
    (he : ∀ id, (t.enum? id).isSome → (u.enum? id).isSome) : m.LinkedIn u id where
  id := h.id
  parent := h.parent
  messages inner hinner := ⟨hm inner (h.messages inner hinner).1, (h.messages inner hinner).2⟩
  enums inner hinner := ⟨he inner (h.enums inner hinner).1, (h.enums inner hinner).2⟩

namespace SymbolTable

variable {t : SymbolTable}

theorem linked_empty : ({} : SymbolTable).Linked where
  message id m h := by cases h
  enum id e h := by cases h
  service id s h := by cases h

theorem isSome_message?_addMessage (m : Message) {id : String} (h : (t.message? id).isSome) :
    ((t.addMessage m).message? id).isSome := by
  rw [message?_addMessage]
  split
  · rfl
  · exact h

theorem isSome_enum?_addEnum (e : Enum) {id : String} (h : (t.enum? id).isSome) :
    ((t.addEnum e).enum? id).isSome := by
  rw [enum?_addEnum]
  split
  · rfl
  · exact h

/-- A message may take the place of another one, as long as what it lists is there. -/
theorem Linked.addMessage (h : t.Linked) {m : Message} (hm : m.LinkedIn t m.id) :
    (t.addMessage m).Linked where
  message id n hn := by
    have hkept : ∀ id, (t.message? id).isSome → ((t.addMessage m).message? id).isSome :=
      fun _ => isSome_message?_addMessage m
    rw [message?_addMessage] at hn
    split at hn
    · rename_i hid
      obtain rfl := Option.some.inj hn
      rw [hid]
      exact hm.mono hkept fun _ he => he
    · exact (h.message id n hn).mono hkept fun _ he => he
  enum := h.enum
  service := h.service

theorem Linked.addEnum (h : t.Linked) {e : Enum} (he : e.LinkedAt e.id) :
    (t.addEnum e).Linked where
  message id m hm := (h.message id m hm).mono (fun _ hid => hid) fun _ => isSome_enum?_addEnum e
  enum id e' he' := by
    rw [enum?_addEnum] at he'
    split at he'
    · rename_i hid
      obtain rfl := Option.some.inj he'
      exact hid ▸ he
    · exact h.enum id e' he'
  service := h.service

theorem Linked.addService (h : t.Linked) (s : Service) : (t.addService s).Linked where
  message id m hm := (h.message id m hm).mono (fun _ hid => hid) fun _ hid => hid
  enum := h.enum
  service id s' hs' := by
    rw [service?_addService] at hs'
    split at hs'
    · rename_i hid
      rw [← Option.some.inj hs', hid]
    · exact h.service id s' hs'

/-! ### Registration -/

theorem Linked.enterEnum (h : t.Linked) (d : Declaration EnumDescriptor) :
    (t.enterEnum d).Linked :=
  h.addEnum ⟨rfl, fun _ houter => d.length_parent_lt houter⟩

theorem Linked.foldl_enterEnum (h : t.Linked) (ds : List (Declaration EnumDescriptor)) :
    (ds.foldl SymbolTable.enterEnum t).Linked :=
  List.foldlRecOn ds _ h fun _ hu d _ => hu.enterEnum d

/-- Registration keeps a table linked: a message is entered after all that it lists. -/
theorem Linked.enter (h : t.Linked) (d : Declaration MessageDescriptor) : (t.enter d).Linked := by
  induction d using Declaration.induction generalizing t with
  | h d ih =>
      have hchildren : (d.children.foldl SymbolTable.enter t).Linked :=
        List.foldlRecOn d.children _ h fun _ hu c hc => ih c hc hu
      rw [enter_eq]
      refine (hchildren.foldl_enterEnum d.enums).addMessage ⟨rfl, ?parent, ?messages, ?enums⟩
      case parent => exact fun outer houter => d.length_parent_lt houter
      case messages =>
        intro inner hinner
        have hlisted : inner ∈ d.children.map Declaration.id := d.map_id_children ▸ hinner
        obtain ⟨c, hc, rfl⟩ := List.mem_map.1 hlisted
        refine ⟨?_, Declaration.length_lt_of_nested hc⟩
        rw [message?_foldl_enterEnum, foldl_iff_mem (fun u => (u.message? c.id).isSome)
          fun e _ u => isSome_message?_enter u c.id e]
        exact Or.inr (List.mem_flatMap.2 ⟨c, hc, List.mem_map_of_mem c.mem_all_self⟩)
      case enums =>
        intro inner hinner
        have hlisted : inner ∈ d.enums.map Declaration.id := d.map_id_enums ▸ hinner
        obtain ⟨e, he, rfl⟩ := List.mem_map.1 hlisted
        refine ⟨?_, Declaration.length_lt_of_nested he⟩
        exact (isSome_enum?_foldl_enterEnum ..).2 (Or.inr hlisted)

theorem Linked.registerFile (h : t.Linked) (file : FileDescriptor) :
    (t.registerFile file).Linked := by
  rw [registerFile_eq]
  refine Linked.foldl_enterEnum ?_ file.topEnums
  exact List.foldlRecOn file.topMessages _ h fun _ hu d _ => hu.enter d

/-- **The table of any files is linked.** -/
theorem linked_ofFiles (files : List FileDescriptor) : (ofFiles files).Linked :=
  List.foldlRecOn files _ linked_empty fun _ hu file _ => hu.registerFile file

/-! ### Services, comments and stand-ins -/

/-- Comments make no difference to links. -/
theorem linked_undocumented_iff : t.undocumented.Linked ↔ t.Linked := by
  have hmessages : ∀ id, (t.undocumented.message? id).isSome ↔ (t.message? id).isSome := by simp
  have henums : ∀ id, (t.undocumented.enum? id).isSome ↔ (t.enum? id).isSome := by simp
  constructor
  · intro h
    refine ⟨fun id m hm => ?_, fun id e he => ?_, fun id s hs => ?_⟩
    · have hlinked := (h.message id m.undocumented (by simp [hm])).mono
        (fun id => (hmessages id).1) fun id => (henums id).1
      exact ⟨hlinked.id, hlinked.parent, hlinked.messages, hlinked.enums⟩
    · have hlinked := h.enum id e.undocumented (by simp [he])
      exact ⟨hlinked.id, hlinked.parent⟩
    · exact h.service id s.undocumented (by simp [hs])
  · intro h
    refine ⟨fun id m hm => ?_, fun id e he => ?_, fun id s hs => ?_⟩
    · obtain ⟨n, hn, rfl⟩ := Option.map_eq_some_iff.1 ((message?_undocumented t id).symm.trans hm)
      have hlinked := (h.message id n hn).mono (fun id => (hmessages id).2) fun id => (henums id).2
      exact ⟨hlinked.id, hlinked.parent, hlinked.messages, hlinked.enums⟩
    · obtain ⟨n, hn, rfl⟩ := Option.map_eq_some_iff.1 ((enum?_undocumented t id).symm.trans he)
      have hlinked := h.enum id n hn
      exact ⟨hlinked.id, hlinked.parent⟩
    · obtain ⟨n, hn, rfl⟩ := Option.map_eq_some_iff.1 ((service?_undocumented t id).symm.trans hs)
      exact h.service id n hn

/-- Taking in a file to generate from keeps a table linked. -/
theorem Linked.complete (h : t.Linked) (file : FileDescriptor) : (t.complete file).Linked := by
  rw [← linked_undocumented_iff, undocumented_complete]
  exact List.foldlRecOn file.declaredServices _ (linked_undocumented_iff.2 h)
    fun _ hu _ _ => hu.addService _

end SymbolTable

/-- **The table of an API is linked**, whatever it was compiled from. -/
theorem Api.linked_ofCompiled (config : Option ServiceConfig) (compiled : CompiledFiles) :
    (ofCompiled config compiled).symbols.Linked := by
  rw [symbols_ofCompiled]
  exact List.foldlRecOn compiled.targets _ (SymbolTable.linked_ofFiles compiled.files)
    fun _ hu file _ => hu.complete file

namespace GoCodec

/-- A stand-in that has no links may take the place of a message. -/
theorem linked_standIn {api : Api} (h : api.symbols.Linked) {m : Message}
    (hm : m.parent = none ∧ m.messages = [] ∧ m.enums = []) : (standIn api m).symbols.Linked := by
  obtain ⟨hparent, hmessages, henums⟩ := hm
  unfold standIn
  split
  · exact h
  · exact h.addMessage ⟨rfl, by simp [hparent], by simp [hmessages], by simp [henums]⟩

theorem linked_withWellKnownTypes {api : Api} (h : api.symbols.Linked) :
    (withWellKnownTypes api).symbols.Linked := by
  have hms : ∀ m ∈ wellKnownTypes, m.parent = none ∧ m.messages = [] ∧ m.enums = [] := by decide
  exact List.foldlRecOn (motive := fun api : Api => api.symbols.Linked) wellKnownTypes standIn h
    fun _ hu m hmem => linked_standIn hu (hms m hmem)

end GoCodec

end ClientGen
