import ClientGen.Codec.Go
import ClientGen.Proofs.Building
import ClientGen.Proofs.FieldTypes
import ClientGen.Proofs.Words

/-!
# Go types of fields

A look-up that misses the symbol table gives an empty type, and nothing stops the generation.  This
file shows that no look-up misses when the files refer to what they declare, although the
stand-ins for the time types take the places of declared messages.

* `SymbolTable.Closed` — every field refers to an element of the table, and a map entry is a pair of
  a scalar key and a value that is no map.
* `SymbolTable.closed_ofFiles`, `Closed.of_undocumented_eq`, `GoCodec.closed_withWellKnownTypes` —
  the table of closed files is closed, and stays so with comments and with stand-ins.
* `GoCodec.Spells` — how the elements of a field are spelled, look-up by look-up.
* `GoCodec.exists_spelling` — in a closed table every field has a spelling, and no spelling is
  empty.
-/

namespace ClientGen

open Naming (HasWord)

/-! ## Closed tables -/

namespace SymbolTable

/-- The field is of a known kind, and the element it refers to is in the table. -/
structure Resolves (t : SymbolTable) (f : Field) : Prop where
  kind : f.kind ≠ .group ∧ f.kind ≠ .undefined
  message : f.kind = .message → ∃ id, f.typeId = some id ∧ (t.message? id).isSome
  enum : f.kind = .enum → ∃ id, f.typeId = some id ∧ (t.enum? id).isSome

/-- The message is a pair of a scalar key and a value that is no map. -/
def Paired (t : SymbolTable) (m : Message) : Prop :=
  ∃ key value, m.fields = [key, value] ∧ key.kind.isReference = false ∧
    (value.kind = .message → ∀ id, value.typeId = some id → ¬t.IsMapEntry id)

/-- All fields refer to elements of the table, all map entries are pairs, and all names have a
letter or a digit. -/
structure Closed (t : SymbolTable) : Prop where
  resolves : ∀ id m, t.message? id = some m → ∀ f ∈ m.fields, t.Resolves f
  paired : ∀ id m, t.message? id = some m → m.isMap = true → t.Paired m
  messageName : ∀ id m, t.message? id = some m → HasWord m.name
  enumName : ∀ id e, t.enum? id = some e → HasWord e.name

variable {t u : SymbolTable} {f : Field} {m : Message}

theorem messages_size_pos {id : String} (h : t.message? id = some m) : 0 < t.messages.size := by
  rw [Table.size_eq_length (List.Perm.refl _)]
  exact List.length_pos_of_mem (Table.mem_keys.2 (Option.isSome_iff_exists.2 ⟨m, h⟩))

theorem Resolves.mono (h : t.Resolves f)
    (hm : ∀ id, (t.message? id).isSome → (u.message? id).isSome)
    (he : ∀ id, (t.enum? id).isSome → (u.enum? id).isSome) : u.Resolves f where
  kind := h.kind
  message hkind := (h.message hkind).imp fun id hid => ⟨hid.1, hm id hid.2⟩
  enum hkind := (h.enum hkind).imp fun id hid => ⟨hid.1, he id hid.2⟩

theorem Paired.mono (h : t.Paired m) (hmap : ∀ id, u.IsMapEntry id → t.IsMapEntry id) :
    u.Paired m := by
  obtain ⟨key, value, hfields, hkey, hvalue⟩ := h
  exact ⟨key, value, hfields, hkey, fun hkind id hid hentry => hvalue hkind id hid (hmap id hentry)⟩

/-- Comments leave a table closed. -/
theorem Closed.of_undocumented_eq (h : u.Closed)
    (hm : ∀ id, (t.message? id).map Message.undocumented = u.message? id)
    (he : ∀ id, (t.enum? id).map Enum.undocumented = u.enum? id) : t.Closed := by
  have hmessage : ∀ id m, t.message? id = some m → u.message? id = some m.undocumented := by
    intro id m htm
    rw [← hm, htm, Option.map_some]
  have henum : ∀ id e, t.enum? id = some e → u.enum? id = some e.undocumented := by
    intro id e hte
    rw [← he, hte, Option.map_some]
  have hmessageSome : ∀ id, (u.message? id).isSome → (t.message? id).isSome := by
    intro id hid
    rwa [← hm, Option.isSome_map] at hid
  have henumSome : ∀ id, (u.enum? id).isSome → (t.enum? id).isSome := by
    intro id hid
    rwa [← he, Option.isSome_map] at hid
  have hmap : ∀ id, t.IsMapEntry id → u.IsMapEntry id := by
    rintro id ⟨m, htm, hentry⟩
    exact ⟨m.undocumented, hmessage id m htm, hentry⟩
  refine ⟨fun id m htm f hf => ?_, fun id m htm hentry => ?_, fun id m htm => ?_,
    fun id e hte => ?_⟩
  · have hf' := h.resolves id _ (hmessage id m htm) f.undocumented (List.mem_map_of_mem hf)
    have hf'' := hf'.mono hmessageSome henumSome
    exact ⟨hf''.kind, hf''.message, hf''.enum⟩
  · obtain ⟨key', value', hfields, hkey, hvalue⟩ :=
      (h.paired id _ (hmessage id m htm) hentry).mono hmap
    obtain ⟨key, values, hcons, rfl, hvalues⟩ := List.map_eq_cons_iff.1 hfields
    obtain ⟨value, nothing, rfl, rfl, hnil⟩ := List.map_eq_cons_iff.1 hvalues
    rw [List.map_eq_nil_iff.1 hnil] at hcons
    exact ⟨key, value, hcons, hkey, hvalue⟩
  · exact (h.messageName id _ (hmessage id m htm) : HasWord m.undocumented.name)
  · exact (h.enumName id _ (henum id e hte) : HasWord e.undocumented.name)

end SymbolTable

/-! ## Stand-ins -/

namespace GoCodec

theorem message?_standIn (api : Api) (m : Message) (id : String) :
    (standIn api m).symbols.message? id
      = if id = m.id ∧ m.id ∉ api.messages then some m else api.symbols.message? id := by
  unfold standIn
  by_cases h : m.id ∈ api.messages
  · simp [h]
  · rw [if_neg h, SymbolTable.message?_addMessage]
    simp [h]

theorem enum?_standIn (api : Api) (m : Message) (id : String) :
    (standIn api m).symbols.enum? id = api.symbols.enum? id := by
  unfold standIn
  split <;> rfl

theorem eq_or_message?_of_standIn {api : Api} {m n : Message} {id : String}
    (h : (standIn api m).symbols.message? id = some n) :
    n = m ∨ api.symbols.message? id = some n := by
  rw [message?_standIn] at h
  split at h
  · exact Or.inl (Option.some.inj h).symm
  · exact Or.inr h

theorem isSome_message?_standIn {api : Api} {id : String} (m : Message)
    (h : (api.symbols.message? id).isSome) : ((standIn api m).symbols.message? id).isSome := by
  rw [message?_standIn]
  split
  · rfl
  · exact h

/-- A stand-in leaves a table closed, if it has a name and nothing else. -/
theorem closed_standIn {api : Api} {m : Message} (h : api.symbols.Closed) (hfields : m.fields = [])
    (hmap : m.isMap = false) (hname : HasWord m.name) : (standIn api m).symbols.Closed := by
  have henum : ∀ id, (api.symbols.enum? id).isSome → ((standIn api m).symbols.enum? id).isSome :=
    fun id hid => (enum?_standIn api m id).symm ▸ hid
  have hentry : ∀ id, (standIn api m).symbols.IsMapEntry id → api.symbols.IsMapEntry id := by
    rintro id ⟨n, hn, hnmap⟩
    rcases eq_or_message?_of_standIn hn with rfl | hn
    · rw [hmap] at hnmap
      cases hnmap
    · exact ⟨n, hn, hnmap⟩
  refine ⟨fun id n hn f hf => ?_, fun id n hn hnmap => ?_, fun id n hn => ?_, fun id e he => ?_⟩
  · rcases eq_or_message?_of_standIn hn with rfl | hn
    · rw [hfields] at hf
      cases hf
    · exact (h.resolves id n hn f hf).mono (fun _ => isSome_message?_standIn m) henum
  · rcases eq_or_message?_of_standIn hn with rfl | hn
    · rw [hmap] at hnmap
      cases hnmap
    · exact (h.paired id n hn hnmap).mono hentry
  · rcases eq_or_message?_of_standIn hn with rfl | hn
    · exact hname
    · exact h.messageName id n hn
  · exact h.enumName id e ((enum?_standIn api m id).symm.trans he)

theorem closed_foldl_standIn {ms : List Message}
    (hms : ∀ m ∈ ms, m.fields = [] ∧ m.isMap = false ∧ HasWord m.name) {api : Api}
    (h : api.symbols.Closed) : (ms.foldl standIn api).symbols.Closed := by
  induction ms generalizing api with
  | nil => exact h
  | cons m ms ih =>
      obtain ⟨hfields, hmap, hname⟩ := hms m (List.mem_cons_self ..)
      exact ih (fun n hn => hms n (List.mem_cons_of_mem _ hn)) (closed_standIn h hfields hmap hname)

/-- The stand-ins for the time types leave a table closed. -/
theorem closed_withWellKnownTypes {api : Api} (h : api.symbols.Closed) :
    (withWellKnownTypes api).symbols.Closed :=
  closed_foldl_standIn (by decide) h

/-- A message stays in the table unless a stand-in takes its place. -/
theorem message?_foldl_standIn {ms : List Message} {api : Api} {id : String} {m : Message}
    (h : api.symbols.message? id = some m) :
    ∃ n, (ms.foldl standIn api).symbols.message? id = some n ∧ (n = m ∨ n ∈ ms) := by
  induction ms generalizing api m with
  | nil => exact ⟨m, h, Or.inl rfl⟩
  | cons k ms ih =>
      by_cases hk : id = k.id ∧ k.id ∉ api.messages
      · obtain ⟨n, hn, hcases⟩ := ih ((message?_standIn api k id).trans (if_pos hk))
        exact ⟨n, hn, Or.inr (List.mem_cons.2 hcases)⟩
      · obtain ⟨n, hn, hcases⟩ := ih (((message?_standIn api k id).trans (if_neg hk)).trans h)
        exact ⟨n, hn, hcases.imp_right (List.mem_cons_of_mem _)⟩

end GoCodec

/-! ## Closed files -/

/-- Every field is of a known kind other than a group, and what it refers to is declared in one of
the files. -/
structure ClosedTypes (files : List FileDescriptor) : Prop where
  kind : ∀ d ∈ files.flatMap FileDescriptor.declaredMessages, ∀ f ∈ d.item.fields,
    f.wireKind?.isSome ∧ f.wireKind? ≠ some .group
  message : ∀ d ∈ files.flatMap FileDescriptor.declaredMessages, ∀ f ∈ d.item.fields,
    f.wireKind? = some .message →
      textOf f.typeName ∈ (files.flatMap FileDescriptor.declaredMessages).map Declaration.id
  enum : ∀ d ∈ files.flatMap FileDescriptor.declaredMessages, ∀ f ∈ d.item.fields,
    f.wireKind? = some .enum →
      textOf f.typeName ∈ (files.flatMap FileDescriptor.declaredEnums).map Declaration.id

/-- The type of the field is a map entry. -/
def FieldDescriptor.IsMapOf (f : FieldDescriptor) (files : List FileDescriptor) : Prop :=
  f.wireKind? = some .message ∧ ∃ e ∈ files.flatMap FileDescriptor.declaredMessages,
    e.item.isMapEntry = true ∧ e.id = textOf f.typeName

/-- Every map entry is a pair of a scalar key and a value that is no map. -/
def PairedMapEntries (files : List FileDescriptor) : Prop :=
  ∀ d ∈ files.flatMap FileDescriptor.declaredMessages, d.item.isMapEntry = true →
    ∃ key value, d.item.fields = [key, value] ∧
      (∃ kind ∈ key.wireKind?, kind.isReference = false) ∧ ¬value.IsMapOf files

/-- The names of messages and enums have a letter or a digit. -/
structure WordNames (files : List FileDescriptor) : Prop where
  messages : ∀ d ∈ files.flatMap FileDescriptor.declaredMessages, HasWord (nameOf d.item)
  enums : ∀ d ∈ files.flatMap FileDescriptor.declaredEnums, HasWord (nameOf d.item)

namespace SymbolTable

variable {files : List FileDescriptor}

/-- A message in the table of some files was made from a declaration. -/
theorem exists_declared_of_message? (hids : DistinctIds files) {id : String} {m : Message}
    (hm : (ofFiles files).message? id = some m) :
    ∃ d ∈ files.flatMap FileDescriptor.declaredMessages, d.id = id ∧
      ∃ u, m = Message.ofDescriptor u d.item d.id d.package d.parent := by
  have hid := (isSome_message?_ofFiles files id).1 (by rw [hm, Option.isSome_some])
  obtain ⟨d, hd, rfl⟩ := List.mem_map.1 hid
  obtain ⟨u, -, -, hdm⟩ := entered_ofFiles hids.messages d hd
  exact ⟨d, hd, rfl, u, Option.some.inj (hm.symm.trans hdm)⟩

/-- The kind of a wire type is one of those with a number. -/
theorem wireKind?_ne_undefined (d : FieldDescriptor) : d.wireKind? ≠ some .undefined := by
  intro h
  obtain ⟨n, -, hn⟩ := Option.bind_eq_some_iff.1 h
  rw [TypeKind.ofNumber?] at hn
  split at hn
  · cases hn
  · have hmem : TypeKind.undefined ∈ TypeKind.all := List.mem_of_getElem? hn
    exact absurd hmem (by decide)

/-- A field that agrees with its descriptor refers to what the descriptor says. -/
theorem resolves_of_agrees (htypes : ClosedTypes files)
    {d : Declaration MessageDescriptor} (hd : d ∈ files.flatMap FileDescriptor.declaredMessages)
    {fd : FieldDescriptor} (hfd : fd ∈ d.item.fields) {u : SymbolTable} {f : Field}
    (hf : f.Agrees u fd) : (ofFiles files).Resolves f := by
  obtain ⟨hsome, hgroup⟩ := htypes.kind d hd fd hfd
  obtain ⟨kind, hkind⟩ := Option.isSome_iff_exists.1 hsome
  have hfkind : f.kind = kind := hf.kind.trans (by rw [hkind, Option.getD_some])
  have htype : kind.isReference = true → f.typeId = some (textOf fd.typeName) := by
    intro href
    rw [hf.typeId, hfkind, if_pos href]
  refine ⟨⟨?_, ?_⟩, fun hmessage => ?_, fun henum => ?_⟩
  · exact fun h => hgroup (by rw [hkind, ← hfkind, h])
  · exact fun h => wireKind?_ne_undefined fd (by rw [hkind, ← hfkind, h])
  · obtain rfl := hfkind.symm.trans hmessage
    exact ⟨_, htype rfl,
      (isSome_message?_ofFiles files _).2 (htypes.message d hd fd hfd hkind)⟩
  · obtain rfl := hfkind.symm.trans henum
    exact ⟨_, htype rfl, (isSome_enum?_ofFiles files _).2 (htypes.enum d hd fd hfd hkind)⟩

/-- A map entry of the files is a pair in their table. -/
theorem paired_ofDescriptor (hids : DistinctIds files) (hmaps : PairedMapEntries files)
    {d : Declaration MessageDescriptor} (hd : d ∈ files.flatMap FileDescriptor.declaredMessages)
    (hentry : d.item.isMapEntry = true) (u : SymbolTable) :
    (ofFiles files).Paired (Message.ofDescriptor u d.item d.id d.package d.parent) := by
  obtain ⟨key, value, hfields, ⟨kind, hkey, hscalar⟩, hvalue⟩ := hmaps d hd hentry
  have hagrees := Field.agrees_ofDescriptor u d.id d.item.oneofDecls.length
  refine ⟨Field.ofDescriptor u d.id d.item.oneofDecls.length key,
    Field.ofDescriptor u d.id d.item.oneofDecls.length value, ?_, ?_, ?_⟩
  · show d.item.fields.map _ = _
    rw [hfields]
    rfl
  · rw [(hagrees key).kind, Option.mem_def.1 hkey, Option.getD_some, hscalar]
  · rintro hkind id hid ⟨m, hm, hmap⟩
    obtain ⟨e, he, rfl, v, rfl⟩ := exists_declared_of_message? hids hm
    have hmessage : value.wireKind? = some .message := by
      rw [(hagrees value).kind] at hkind
      cases hwire : value.wireKind? with
      | none => rw [hwire] at hkind; cases hkind
      | some kind => rw [hwire] at hkind; exact congrArg some hkind
    have htype := (hagrees value).typeId
    rw [hkind, hid] at htype
    exact hvalue ⟨hmessage, e, he, hmap, Option.some.inj htype⟩

/-- **The table of closed files is closed.** -/
theorem closed_ofFiles (hids : DistinctIds files) (htypes : ClosedTypes files)
    (hmaps : PairedMapEntries files) (hnames : WordNames files) : (ofFiles files).Closed where
  resolves id m hm f hf := by
    obtain ⟨d, hd, rfl, u, rfl⟩ := exists_declared_of_message? hids hm
    obtain ⟨fd, hfd, rfl⟩ := List.mem_map.1 hf
    exact resolves_of_agrees htypes hd hfd (Field.agrees_ofDescriptor ..)
  paired id m hm hmap := by
    obtain ⟨d, hd, rfl, u, rfl⟩ := exists_declared_of_message? hids hm
    exact paired_ofDescriptor hids hmaps hd hmap u
  messageName id m hm := by
    obtain ⟨d, hd, rfl, u, rfl⟩ := exists_declared_of_message? hids hm
    exact hnames.messages d hd
  enumName id e he := by
    have hid := (isSome_enum?_ofFiles files id).1 (by rw [he, Option.isSome_some])
    obtain ⟨d, hd, rfl⟩ := List.mem_map.1 hid
    obtain ⟨e', he', hrep⟩ := enum?_ofFiles hids.enums d hd
    rw [Option.some.inj (he.symm.trans he'), hrep.name]
    exact hnames.enums d hd

end SymbolTable

/-! ## Spelling a field -/

namespace GoCodec

variable {c : GoCodec} {t : SymbolTable} {f : Field}

/-- The spelling of one element of the field, as the table has it: a scalar by name, a map by the
types of its key and its value, any other message by pointer and an enum by name. -/
inductive Spells (c : GoCodec) (t : SymbolTable) (f : Field) : String → Prop
  | scalar {spelling : String} (h : scalarType? f.kind = some spelling) : Spells c t f spelling
  | map {id : String} {m : Message} {key value : Field} (hkind : f.kind = .message)
      (hid : f.typeId = some id) (hm : t.message? id = some m) (hmap : m.isMap = true)
      (hfields : m.fields = [key, value]) (hkey : c.fieldType t key ≠ "")
      (hvalue : c.fieldType t value ≠ "") :
      Spells c t f ("map[" ++ c.fieldType t key ++ "]" ++ c.fieldType t value)
  | message {id : String} {m : Message} (hkind : f.kind = .message) (hid : f.typeId = some id)
      (hm : t.message? id = some m) (hmap : m.isMap = false) (hname : c.messageName t m ≠ "") :
      Spells c t f ("*" ++ c.messageName t m)
  | enum {id : String} {e : Enum} (hkind : f.kind = .enum) (hid : f.typeId = some id)
      (he : t.enum? id = some e) : Spells c t f (c.enumName t e)

/-! ### Names -/

theorem escapeGoKeyword_ne_empty {symbol : String} (h : symbol ≠ "") :
    escapeGoKeyword symbol ≠ "" := by
  unfold escapeGoKeyword
  split
  · exact fun happend => h (String.append_eq_empty_iff.1 happend).1
  · exact h

theorem topLevelName_ne_empty (c : GoCodec) (package : String) {name : String} (h : HasWord name) :
    c.topLevelName package name ≠ "" := by
  have hpascal := Naming.toPascalCase_ne_empty h
  unfold topLevelName
  split
  · exact fun happend => hpascal (String.append_eq_empty_iff.1 happend).2
  · exact escapeGoKeyword_ne_empty hpascal

theorem messageNameWithin_ne_empty (steps : Nat) {m : Message} (h : HasWord m.name) :
    c.messageNameWithin t steps m ≠ "" := by
  cases steps with
  | zero => exact topLevelName_ne_empty c m.package h
  | succ steps =>
      rw [messageNameWithin]
      split
      · exact fun happend =>
          Naming.toPascalCase_ne_empty h (String.append_eq_empty_iff.1 happend).2
      · exact topLevelName_ne_empty c m.package h

theorem messageName_ne_empty {m : Message} (h : HasWord m.name) : c.messageName t m ≠ "" :=
  messageNameWithin_ne_empty _ h

theorem enumName_ne_empty {e : Enum} (h : HasWord e.name) : c.enumName t e ≠ "" := by
  unfold enumName
  split
  · exact fun happend => Naming.toPascalCase_ne_empty h (String.append_eq_empty_iff.1 happend).2
  · exact topLevelName_ne_empty c e.package h

/-! ### Types -/

theorem scalarType?_ne_empty {kind : TypeKind} {spelling : String}
    (h : scalarType? kind = some spelling) : spelling ≠ "" := by
  cases kind <;> cases h <;> decide

/-- The kinds without a scalar type are those that refer to an element, and the unknown one. -/
theorem isSome_scalarType? {kind : TypeKind} (href : kind.isReference = false)
    (hknown : kind ≠ .undefined) : (scalarType? kind).isSome := by
  cases kind <;> first | rfl | exact absurd rfl hknown | cases href

theorem sliceOf_of_ne_empty {element : String} (h : element ≠ "") :
    sliceOf f element = if f.repeated then "[]" ++ element else element := by
  have hempty : element.isEmpty = false := String.isEmpty_eq_false_iff.2 h
  rw [sliceOf, hempty, Bool.not_false, Bool.and_true]

theorem sliceOf_ne_empty {element : String} (h : element ≠ "") : sliceOf f element ≠ "" := by
  rw [sliceOf_of_ne_empty h]
  split
  · exact fun happend => h (String.append_eq_empty_iff.1 happend).2
  · exact h

variable (c t)

theorem fieldTypeWithin_scalar {spelling : String} (h : scalarType? f.kind = some spelling)
    (steps : Nat) : c.fieldTypeWithin t steps f = sliceOf f spelling := by
  rw [fieldTypeWithin, h]

theorem fieldTypeWithin_enum {id : String} {e : Enum} (hkind : f.kind = .enum)
    (hid : f.typeId = some id) (he : t.enum? id = some e) (steps : Nat) :
    c.fieldTypeWithin t steps f = sliceOf f (c.enumName t e) := by
  rw [fieldTypeWithin]
  simp only [hkind, scalarType?, hid, Option.getD_some, he]

theorem fieldTypeWithin_message {id : String} {m : Message} (hkind : f.kind = .message)
    (hid : f.typeId = some id) (hm : t.message? id = some m) (hmap : m.isMap = false)
    (steps : Nat) : c.fieldTypeWithin t steps f = sliceOf f ("*" ++ c.messageName t m) := by
  have hnone : m.mapFields? = none := by rw [Message.mapFields?, hmap]
  rw [fieldTypeWithin]
  simp only [hkind, scalarType?, hid, Option.getD_some, hm, hnone, hmap]
  rfl

theorem fieldTypeWithin_map {id : String} {m : Message} {key value : Field}
    (hkind : f.kind = .message) (hid : f.typeId = some id) (hm : t.message? id = some m)
    (hmap : m.isMap = true) (hfields : m.fields = [key, value]) (steps : Nat) :
    c.fieldTypeWithin t (steps + 1) f
      = sliceOf f ("map[" ++ c.fieldTypeWithin t steps key ++ "]" ++
          c.fieldTypeWithin t steps value) := by
  have hsome : m.mapFields? = some (key, value) := by rw [Message.mapFields?, hmap, hfields]
  rw [fieldTypeWithin]
  simp only [hkind, scalarType?, hid, Option.getD_some, hm, hsome]

variable {t}

/-- A field that is no map is spelled by one look-up. -/
theorem exists_spelling_of_not_map (ht : t.Closed) (hf : t.Resolves f)
    (hflat : f.kind = .message → ∀ id, f.typeId = some id → ¬t.IsMapEntry id) :
    ∃ element, element ≠ "" ∧ c.Spells t f element ∧
      ∀ steps, c.fieldTypeWithin t steps f = sliceOf f element := by
  by_cases hmessage : f.kind = .message
  · obtain ⟨id, hid, hsome⟩ := hf.message hmessage
    obtain ⟨m, hm⟩ := Option.isSome_iff_exists.1 hsome
    have hmap : m.isMap = false :=
      Bool.eq_false_iff.2 fun hmap => hflat hmessage id hid ⟨m, hm, hmap⟩
    have hname := messageName_ne_empty (c := c) (t := t) (ht.messageName id m hm)
    exact ⟨"*" ++ c.messageName t m,
      fun happend => hname (String.append_eq_empty_iff.1 happend).2,
      .message hmessage hid hm hmap hname, fieldTypeWithin_message c t hmessage hid hm hmap⟩
  · by_cases henum : f.kind = .enum
    · obtain ⟨id, hid, hsome⟩ := hf.enum henum
      obtain ⟨e, he⟩ := Option.isSome_iff_exists.1 hsome
      exact ⟨c.enumName t e, enumName_ne_empty (ht.enumName id e he), .enum henum hid he,
        fieldTypeWithin_enum c t henum hid he⟩
    · have href : f.kind.isReference = false := by
        cases hkind : f.kind with
        | message => exact absurd hkind hmessage
        | enum => exact absurd hkind henum
        | group => exact absurd hkind hf.kind.1
        | _ => rfl
      obtain ⟨spelling, hspelling⟩ :=
        Option.isSome_iff_exists.1 (isSome_scalarType? href hf.kind.2)
      exact ⟨spelling, scalarType?_ne_empty hspelling, .scalar hspelling,
        fieldTypeWithin_scalar c t hspelling⟩

/-- A map is spelled by the types of its key and its value, which do not depend on the steps left. -/
theorem exists_spelling_of_map (ht : t.Closed) {id : String} {m : Message}
    (hkind : f.kind = .message) (hid : f.typeId = some id) (hm : t.message? id = some m)
    (hmap : m.isMap = true) :
    ∃ element, element ≠ "" ∧ c.Spells t f element ∧ c.fieldType t f = sliceOf f element := by
  obtain ⟨key, value, hfields, hscalar, hflat⟩ := ht.paired id m hm hmap
  have hresolves := ht.resolves id m hm
  rw [hfields] at hresolves
  obtain ⟨k, hk, -, hkey⟩ := c.exists_spelling_of_not_map ht
    (hresolves key (List.mem_cons_self ..)) fun hmessage => by
      rw [hmessage] at hscalar
      cases hscalar
  obtain ⟨v, hv, -, hvalue⟩ := c.exists_spelling_of_not_map ht
    (hresolves value (List.mem_cons_of_mem _ (List.mem_cons_self ..))) hflat
  have hkeyType : c.fieldType t key ≠ "" := by
    rw [fieldType, hkey]
    exact sliceOf_ne_empty hk
  have hvalueType : c.fieldType t value ≠ "" := by
    rw [fieldType, hvalue]
    exact sliceOf_ne_empty hv
  obtain ⟨steps, hsteps⟩ := Nat.exists_eq_add_one.2 (SymbolTable.messages_size_pos hm)
  refine ⟨_, fun happend => hvalueType (String.append_eq_empty_iff.1 happend).2,
    .map hkind hid hm hmap hfields hkeyType hvalueType, ?_⟩
  rw [fieldType, fieldType, fieldType, hkey, hvalue, hsteps,
    fieldTypeWithin_map c t hkind hid hm hmap hfields, hkey, hvalue]

/-- **Every field of a closed table has a spelling**, and its type is that spelling, in slice
brackets if the field is repeated. -/
theorem exists_spelling (ht : t.Closed) (hf : t.Resolves f) :
    ∃ element, element ≠ "" ∧ c.Spells t f element ∧
      c.fieldType t f = if f.repeated then "[]" ++ element else element := by
  have hslice : ∃ element, element ≠ "" ∧ c.Spells t f element ∧
      c.fieldType t f = sliceOf f element := by
    by_cases hentry : f.kind = .message ∧ ∃ id, f.typeId = some id ∧ t.IsMapEntry id
    · obtain ⟨hkind, id, hid, m, hm, hmap⟩ := hentry
      exact c.exists_spelling_of_map ht hkind hid hm hmap
    · obtain ⟨element, hne, hspells, htype⟩ := c.exists_spelling_of_not_map ht hf
        fun hkind id hid hmap => hentry ⟨hkind, id, hid, hmap⟩
      exact ⟨element, hne, hspells, htype _⟩
  obtain ⟨element, hne, hspells, htype⟩ := hslice
  exact ⟨element, hne, hspells, htype.trans (sliceOf_of_ne_empty hne)⟩

end GoCodec

/-! ## Compiled files -/

section Compiled

variable {config : Option ServiceConfig} {compiled : CompiledFiles}

theorem Api.closed_ofCompiled (hids : DistinctIds compiled.files)
    (htypes : ClosedTypes compiled.files) (hmaps : PairedMapEntries compiled.files)
    (hnames : WordNames compiled.files) : (ofCompiled config compiled).symbols.Closed :=
  (SymbolTable.closed_ofFiles hids htypes hmaps hnames).of_undocumented_eq
    (message?_ofCompiled hids) (enum?_ofCompiled hids)

/-- The table that Go types are spelled from: that of the files, with the stand-ins. -/
def GoCodec.symbolsOf (config : Option ServiceConfig) (compiled : CompiledFiles) : SymbolTable :=
  (withWellKnownTypes (Api.ofCompiled config compiled)).symbols

/-- The field has the name and the type that its descriptor gives it. -/
structure Field.TypedAs (d : FieldDescriptor) (f : Field) : Prop where
  name : f.name = nameOf d
  kind : f.kind = d.wireKind?.getD .undefined
  typeId : f.typeId = if f.kind.isReference then some (textOf d.typeName) else none

/-- The table has each declared message with its fields, or a stand-in for it. -/
theorem GoCodec.exists_message?_symbolsOf (hids : DistinctIds compiled.files)
    {d : Declaration MessageDescriptor}
    (hd : d ∈ compiled.files.flatMap FileDescriptor.declaredMessages) :
    ∃ m, (symbolsOf config compiled).message? d.id = some m ∧
      (List.Forall₂ Field.TypedAs d.item.fields m.fields ∨ m ∈ wellKnownTypes) := by
  obtain ⟨u, -, -, hdm⟩ := SymbolTable.entered_ofFiles hids.messages d hd
  have hcompiled := @Api.message?_ofCompiled config compiled hids d.id
  obtain ⟨m, hm, hmd⟩ := Option.map_eq_some_iff.1 (hcompiled.trans hdm)
  have hkept : ∃ n, (symbolsOf config compiled).message? d.id = some n ∧
      (n = m ∨ n ∈ wellKnownTypes) := message?_foldl_standIn hm
  obtain ⟨n, hn, hcases⟩ := hkept
  refine ⟨n, hn, hcases.imp_left ?_⟩
  rintro rfl
  have hfields : d.item.fields.map (Field.ofDescriptor u d.id d.item.oneofDecls.length)
      = n.fields.map Field.undocumented := (congrArg Message.fields hmd).symm
  rw [← List.forall₂_eq_eq_eq, List.forall₂_map_left_iff, List.forall₂_map_right_iff] at hfields
  refine hfields.imp fun fd f hf => ?_
  have hagrees := hf ▸ Field.agrees_ofDescriptor u d.id d.item.oneofDecls.length fd
  exact ⟨hagrees.name, hagrees.kind, hagrees.typeId⟩

/-- **Every field of closed files has a Go type.**  When all files refer to what they declare, the
table that Go types are spelled from has each declared message with its fields, or a stand-in for
it; every field refers to an element of the table, and its type is the spelling of the element, in
slice brackets if the field is repeated.  No spelling is empty. -/
theorem GoCodec.fieldType_ofCompiled (c : GoCodec) (config : Option ServiceConfig)
    (hids : DistinctIds compiled.files) (htypes : ClosedTypes compiled.files)
    (hmaps : PairedMapEntries compiled.files) (hnames : WordNames compiled.files) :
    (∀ d ∈ compiled.files.flatMap FileDescriptor.declaredMessages, ∃ m,
      (symbolsOf config compiled).message? d.id = some m ∧
        (List.Forall₂ Field.TypedAs d.item.fields m.fields ∨ m ∈ wellKnownTypes)) ∧
    ∀ id m, (symbolsOf config compiled).message? id = some m → ∀ f ∈ m.fields,
      (symbolsOf config compiled).Resolves f ∧
        ∃ element, element ≠ "" ∧ c.Spells (symbolsOf config compiled) f element ∧
          c.fieldType (symbolsOf config compiled) f
            = if f.repeated then "[]" ++ element else element := by
  have hclosed : (symbolsOf config compiled).Closed :=
    closed_withWellKnownTypes (Api.closed_ofCompiled hids htypes hmaps hnames)
  refine ⟨fun d hd => exists_message?_symbolsOf hids hd, fun id m hm f hf => ?_⟩
  have hresolves := hclosed.resolves id m hm f hf
  exact ⟨hresolves, c.exists_spelling hclosed hresolves⟩

end Compiled

/-! ### An example -/

/-- The library with loans, which have a time stamp; that of the declaration gives way to the one of
Go. -/
def libraryLoans : CompiledFiles :=
  let stamps : FileDescriptor :=
    { package := some "google.protobuf"
      messageTypes :=
        [{ name := some "Timestamp"
           fields := [{ name := some "seconds", label := some 1, type := some 3 }] }] }
  let loans : FileDescriptor :=
    { package := some "library.v1"
      messageTypes :=
        [{ name := some "Loan"
           fields :=
             [{ name := some "due", label := some 1, type := some 11,
                typeName := some ".google.protobuf.Timestamp" },
               { name := some "genres", label := some 3, type := some 14,
                 typeName := some ".library.v1.Genre" }] }] }
  { targets := [loans], files := loans :: stamps :: libraryFiles }

theorem libraryLoans_typed :
    DistinctIds libraryLoans.files ∧ ClosedTypes libraryLoans.files ∧
      PairedMapEntries libraryLoans.files ∧ WordNames libraryLoans.files ∧
      ∀ id m, (GoCodec.symbolsOf none libraryLoans).message? id = some m → ∀ f ∈ m.fields,
        (GoCodec.symbolsOf none libraryLoans).Resolves f ∧
          ∃ element, element ≠ "" ∧
            ({ year := "2024" } : GoCodec).Spells (GoCodec.symbolsOf none libraryLoans) f element ∧
            ({ year := "2024" } : GoCodec).fieldType (GoCodec.symbolsOf none libraryLoans) f
              = if f.repeated then "[]" ++ element else element := by
  have hids : DistinctIds libraryLoans.files := ⟨by decide, by decide, by decide⟩
  have htypes : ClosedTypes libraryLoans.files := ⟨by decide, by decide, by decide⟩
  have hmaps : PairedMapEntries libraryLoans.files := by
    have hfields : ∀ d ∈ libraryLoans.files.flatMap FileDescriptor.declaredMessages,
        d.item.isMapEntry = true → d.item.fields =
          [{ name := some "key", label := some 1, type := some 9 },
            { name := some "value", label := some 1, type := some 5 }] := by decide
    intro d hd hentry
    exact ⟨_, _, hfields d hd hentry, by decide, fun h => absurd h.1 (by decide)⟩
  have hnames : WordNames libraryLoans.files := ⟨by decide, by decide⟩
  exact ⟨hids, htypes, hmaps, hnames,
    (GoCodec.fieldType_ofCompiled _ none hids htypes hmaps hnames).2⟩

-- the time stamp of the declaration has given way to that of Go
example : ({ year := "2024" } : GoCodec).fieldType (GoCodec.symbolsOf none libraryLoans)
    { kind := .message, typeId := some ".google.protobuf.Timestamp", repeated := true }
      = "[]*time.Time" := by decide +kernel

end ClientGen
