import ClientGen.Proofs.Nesting
import ClientGen.Proofs.Packages
import ClientGen.Proofs.TimeNames

/-!
# The import of the time package

The import is decided by the packages of the messages that fields refer to, map entries included.
The types of the fields are spelled along the messages around those types, and a map entry is
spelled where it is used.  This file compares the two.

* `SymbolTable.MapsOwned` — a map entry is used by the message around it and by no other.  Then the
  fields of all messages that are reached are those that types are made of
  (`Api.reachesField_iff`).
* `GoCodec.imports_time_iff` — the package is imported if such a field refers to a message of it.
* `GoCodec.recordsMentionTime_iff` — what the records of messages mention, their fields mention.
* `GoCodec.timeImport_exact` — import and mention agree, but for what is nested in a time type.
-/

namespace ClientGen

open Relation (ReflTransGen TransGen)

/-! ## Map entries in a table -/

/-- Map entries are pairs in which nothing is nested, and each of them is the type of a field of the
message that lists it, and of no field of another message. -/
structure SymbolTable.MapsOwned (t : SymbolTable) : Prop where
  leaf : ∀ id m, t.message? id = some m → m.isMap = true → m.messages = []
  pair : ∀ id m, t.message? id = some m → m.isMap = true → ∃ key value, m.fields = [key, value]
  used : ∀ id outer, t.message? id = some outer → ∀ inner ∈ outer.messages, t.IsMapEntry inner →
    ∃ f ∈ outer.fields, f.kind = .message ∧ f.typeId = some inner
  owned : ∀ id outer, t.message? id = some outer → ∀ f ∈ outer.fields, f.kind = .message →
    t.IsMapEntry (f.typeId.getD "") → f.typeId.getD "" ∈ outer.messages

namespace SymbolTable

variable {t : SymbolTable}

theorem mapFields?_eq_some_iff {m : Message} {key value : Field} :
    m.mapFields? = some (key, value) ↔ m.isMap = true ∧ m.fields = [key, value] := by
  unfold Message.mapFields?
  constructor
  · intro h
    split at h
    · rename_i hmap hfields
      cases h
      exact ⟨hmap, hfields⟩
    · cases h
  · rintro ⟨hmap, hfields⟩
    simp [hmap, hfields]

/-- The key and the value of a map are fields of an entry that is listed around the map. -/
theorem MapsOwned.entry_of_partOf (ht : t.MapsOwned) {id : String} {outer : Message}
    (houter : t.message? id = some outer) {f part : Field} (hf : f ∈ outer.fields)
    (hpart : t.PartOf part f) :
    ∃ entry, t.Inside entry outer ∧ entry.isMap = true ∧ part ∈ entry.fields := by
  obtain ⟨hkind, entry, key, value, hentry, hpair, hmem⟩ := mem_mapParts.1 hpart
  obtain ⟨hmap, hfields⟩ := mapFields?_eq_some_iff.1 hpair
  have hlisted := ht.owned id outer houter f hf hkind ⟨entry, hentry, hmap⟩
  exact ⟨entry, List.mem_filterMap.2 ⟨_, hlisted, hentry⟩, hmap, hfields ▸ hmem⟩

theorem MapsOwned.not_inside (ht : t.MapsOwned) {id : String} {entry inner : Message}
    (hentry : t.message? id = some entry) (hmap : entry.isMap = true) : ¬t.Inside inner entry := by
  intro hinside
  rw [Inside, ht.leaf id entry hentry hmap] at hinside
  cases hinside

/-- There are no maps of maps. -/
theorem MapsOwned.mapsEnd (ht : t.MapsOwned) : t.MapsEnd := by
  have htwice : ∀ a b c, t.Contains a b → ¬t.Contains b c := by
    rintro a b c ⟨m, key, value, hm, hpair, f, hf, hkind, rfl⟩
      ⟨inner, key', value', hinner, hpair', -⟩
    obtain ⟨hmap, hfields⟩ := mapFields?_eq_some_iff.1 hpair
    have hentry : t.IsMapEntry (f.typeId.getD "") :=
      ⟨inner, hinner, (mapFields?_eq_some_iff.1 hpair').1⟩
    have hlisted := ht.owned a m hm f (hfields ▸ hf) hkind hentry
    rw [ht.leaf a m hm hmap] at hlisted
    cases hlisted
  intro id hcycle
  obtain ⟨next, hfirst, -⟩ := TransGen.head'_iff.1 hcycle
  obtain ⟨last, -, hlast⟩ := TransGen.tail'_iff.1 hcycle
  exact htwice last id next hlast hfirst

end SymbolTable

/-! ## Fields that are reached -/

namespace Api

variable {api : Api}

/-- The field belongs to a message that is selected or nested in a selected one. -/
def ReachesField (api : Api) (f : Field) : Prop :=
  ∃ m, api.ReachesMessage m ∧ f ∈ m.fields

theorem ShowsMessage.reaches {m : Message} (h : api.ShowsMessage m) : api.ReachesMessage m := by
  obtain ⟨top, htop, hpath⟩ := h
  exact ⟨top, htop, hpath.lift id fun _ _ hinner => List.mem_of_mem_filter hinner⟩

theorem ReachesMessage.exists_id {m : Message} (h : api.ReachesMessage m) :
    ∃ id, api.symbols.message? id = some m := by
  obtain ⟨top, htop, hpath⟩ := h
  rcases hpath.cases_tail with rfl | ⟨outer, -, hinside⟩
  · obtain ⟨id, -, hid⟩ := List.mem_filterMap.1 htop
    exact ⟨id, hid⟩
  · obtain ⟨id, -, hid⟩ := List.mem_filterMap.1 hinside
    exact ⟨id, hid⟩

theorem ReachesMessage.inside {outer inner : Message} (h : api.ReachesMessage outer)
    (hinside : api.symbols.Inside inner outer) : api.ReachesMessage inner := by
  obtain ⟨top, htop, hpath⟩ := h
  exact ⟨top, htop, hpath.tail hinside⟩

/-- A message that is reached is shown, or it is a map entry in a message that is shown. -/
theorem ReachesMessage.cases (hmaps : api.symbols.MapsOwned) {m : Message}
    (h : api.ReachesMessage m) : api.ShowsMessage m ∨
      m.isMap = true ∧ ∃ outer, api.ShowsMessage outer ∧ api.symbols.Inside m outer := by
  obtain ⟨top, htop, hpath⟩ := h
  induction hpath with
  | refl => exact Or.inl ⟨top, htop, .refl⟩
  | @tail outer inner hpath hinside ih =>
      rcases ih with hshown | ⟨hentry, -⟩
      · cases hmap : inner.isMap with
        | true => exact Or.inr ⟨rfl, outer, hshown, hinside⟩
        | false =>
            obtain ⟨top, htop, hpath⟩ := hshown
            have hnested : inner ∈ Codec.nestedMessages api.symbols outer :=
              List.mem_filter.2 ⟨hinside, by simp [hmap]⟩
            exact Or.inl ⟨top, htop, hpath.tail hnested⟩
      · obtain ⟨id, hid⟩ := ReachesMessage.exists_id ⟨top, htop, hpath⟩
        exact absurd hinside (hmaps.not_inside hid hentry)

/-- **The fields that are reached are those that types are made of**: the fields of the messages
that are shown, and the keys and values of the maps among them. -/
theorem reachesField_iff (hmaps : api.symbols.MapsOwned) {g : Field} :
    api.ReachesField g ↔ ∃ m, api.ShowsMessage m ∧ ∃ f ∈ m.fields,
      ReflTransGen (fun whole part => api.symbols.PartOf part whole) f g := by
  constructor
  · rintro ⟨m, hm, hg⟩
    rcases hm.cases hmaps with hshown | ⟨hmap, outer, houter, hinside⟩
    · exact ⟨m, hshown, g, hg, .refl⟩
    · obtain ⟨inner, hlisted, hentry⟩ := List.mem_filterMap.1 hinside
      obtain ⟨id, hid⟩ := houter.reaches.exists_id
      obtain ⟨f, hf, hkind, htype⟩ := hmaps.used id outer hid inner hlisted ⟨m, hentry, hmap⟩
      obtain ⟨key, value, hfields⟩ := hmaps.pair inner m hentry hmap
      refine ⟨outer, houter, f, hf, .single (SymbolTable.mem_mapParts.2 ⟨hkind, m, key, value, ?_⟩)⟩
      rw [htype, Option.getD_some]
      exact ⟨hentry, SymbolTable.mapFields?_eq_some_iff.2 ⟨hmap, hfields⟩, hfields ▸ hg⟩
  · rintro ⟨m, hm, f, hf, hpath⟩
    have hreached := hm.reaches
    -- the path into the map has one step at most
    have hcases : g = f ∨ ∃ entry, api.symbols.Inside entry m ∧ entry.isMap = true ∧
        g ∈ entry.fields := by
      induction hpath with
      | refl => exact Or.inl rfl
      | tail _ hpart ih =>
          rcases ih with rfl | ⟨entry, hinside, hmap, hentry⟩
          · obtain ⟨id, hid⟩ := hreached.exists_id
            exact Or.inr (hmaps.entry_of_partOf hid hf hpart)
          · obtain ⟨id, hid⟩ := (hreached.inside hinside).exists_id
            obtain ⟨inner, hinner, -⟩ := hmaps.entry_of_partOf hid hentry hpart
            exact absurd hinner (hmaps.not_inside hid hmap)
    rcases hcases with rfl | ⟨entry, hinside, -, hentry⟩
    · exact ⟨m, hreached, hf⟩
    · exact ⟨entry, hreached.inside hinside, hentry⟩

end Api

/-! ## The import -/

/-- The field refers to a message of the package. -/
def SymbolTable.RefersTo (t : SymbolTable) (package : String) (f : Field) : Prop :=
  f.kind.isReference = true ∧ ∃ m, f.typeId.bind t.message? = some m ∧ m.package = package

/-- The type of the field is nested in a message of the package. -/
def SymbolTable.NamesInside (t : SymbolTable) (package : String) (f : Field) : Prop :=
  ∃ outer, t.Within package outer ∧
    ((f.kind = .message ∧ ∃ m, t.message? (f.typeId.getD "") = some m ∧ t.Around outer m) ∨
      (f.kind = .enum ∧ ∃ e, t.enum? (f.typeId.getD "") = some e ∧
        e.parent.bind t.message? = some outer))

namespace GoCodec

variable {c : GoCodec} {t : SymbolTable} {api : Api}

theorem refersToTime_iff {m : Message} :
    refersToTime t m = true ↔ ∃ f ∈ m.fields, t.RefersTo timePackage f := by
  rw [refersToTime, List.any_eq_true]
  refine exists_congr fun f => and_congr_right fun _ => ?_
  rw [Bool.and_eq_true, SymbolTable.RefersTo]
  cases f.typeId.bind t.message? <;> simp

/-- A message uses the time package if it or a message nested in it refers to that package. -/
theorem usesTimeWithin_iff (ht : t.Linked) (m : Message) :
    usesTimeWithin t t.messages.size m = true ↔
      ∃ n, ReflTransGen (fun outer inner => t.Inside inner outer) m n ∧
        refersToTime t n = true := by
  refine iff_exists_of_calls (P := fun m => usesTimeWithin t t.messages.size m = true)
    ht.wellFounded_inside (fun m => ?_) m
  rw [usesTimeWithin_eq ht, Bool.or_eq_true, List.any_eq_true]
  rfl

/-- The API uses the time package if a field that is reached refers to it. -/
theorem usesTime_iff (ht : api.symbols.Linked) :
    usesTime api = true ↔ ∃ f, api.ReachesField f ∧ api.symbols.RefersTo timePackage f := by
  rw [usesTime, List.any_eq_true]
  constructor
  · rintro ⟨top, htop, huses⟩
    obtain ⟨m, hpath, hrefers⟩ := (usesTimeWithin_iff ht top).1 huses
    obtain ⟨f, hf, hrefers⟩ := refersToTime_iff.1 hrefers
    exact ⟨f, ⟨m, ⟨top, htop, hpath⟩, hf⟩, hrefers⟩
  · rintro ⟨f, ⟨m, ⟨top, htop, hpath⟩, hf⟩, hrefers⟩
    exact ⟨top, htop, (usesTimeWithin_iff ht top).2 ⟨m, hpath, refersToTime_iff.2 ⟨f, hf, hrefers⟩⟩⟩

/-- **The time package is imported** if a field that is reached refers to a message of it. -/
theorem imports_time_iff (ht : api.symbols.Linked) (himports : c.importMap = ∅) :
    Text.quoted timePackage ∈ c.imports api ↔
      ∃ f, api.ReachesField f ∧ api.symbols.RefersTo timePackage f := by
  rw [← usesTime_iff ht, imports, himports]
  cases usesTime api with
  | true => exact iff_of_true (by decide) rfl
  | false => exact iff_of_false (by decide) Bool.false_ne_true

end GoCodec

/-! ## The records -/

namespace Codec

variable {c : Codec} {t : SymbolTable} {api : Api}

theorem exists_apiView_of_namesGroups (hc : c.NamesGroups) (api : Api) :
    ∃ view, c.apiView api = .ok view := by
  rw [apiView_eq_unlessRefused, hc.unlessRefused_eq]
  exact ⟨_, rfl⟩

/-- What some record of a message has for its fields, some message that is shown has. -/
theorem exists_record_iff (ht : api.symbols.Linked) {view : ApiView}
    (h : c.apiView api = .ok view) {P : List FieldView → Prop} :
    (∃ r ∈ view.messageRecords, P r.fields) ↔
      ∃ m, api.ShowsMessage m ∧ P (m.fields.map (c.fieldView api.symbols)) := by
  have hfields (m : Message) : (c.messageRecord api.symbols (c.namedType api.symbols) m).fields
      = m.fields.map (c.fieldView api.symbols) := by
    rw [messageRecord_eq ht.nestingEnds]
    rfl
  simp only [mem_messageRecords_iff ht.nestingEnds h]
  constructor
  · rintro ⟨_, ⟨m, hm, rfl⟩, hP⟩
    exact ⟨m, hm, hfields m ▸ hP⟩
  · rintro ⟨m, hm, hP⟩
    exact ⟨_, ⟨m, hm, rfl⟩, (hfields m).symm ▸ hP⟩

end Codec

namespace GoCodec

variable {c : GoCodec} {api : Api}

/-- The type of a field in some record of a message mentions the time package. -/
def RecordsMentionTime (view : ApiView) : Prop :=
  ∃ r ∈ view.messageRecords, ∃ f ∈ r.fields, MentionsTime f.fieldType

/-- **The time package is mentioned** if a field that is reached has the type of a message or an
enum of it. -/
theorem recordsMentionTime_iff (ht : api.symbols.Linked) (hmaps : api.symbols.MapsOwned)
    (himports : c.importMap = ∅) {view : ApiView} (h : c.toCodec.apiView api = .ok view) :
    RecordsMentionTime view ↔ ∃ f, api.ReachesField f ∧ api.symbols.Names timePackage f := by
  have hrecords := Codec.exists_record_iff ht h
    (P := fun views => ∃ f ∈ views, MentionsTime f.fieldType)
  have hfields : ∀ m : Message, (∃ v ∈ m.fields.map (c.toCodec.fieldView api.symbols),
      MentionsTime v.fieldType) ↔ ∃ f ∈ m.fields, MentionsTime (c.fieldType api.symbols f) :=
    fun m => by
      simp only [List.mem_map, exists_exists_and_eq_and]
      rfl
  rw [RecordsMentionTime, hrecords]
  constructor
  · rintro ⟨m, hm, hviews⟩
    obtain ⟨f, hf, hmentions⟩ := (hfields m).1 hviews
    obtain ⟨g, hpath, hnames⟩ :=
      (mentionsTime_fieldType_iff_parts ht hmaps.mapsEnd himports f).1 hmentions
    exact ⟨g, (Api.reachesField_iff hmaps).2 ⟨m, hm, f, hf, hpath⟩, hnames⟩
  · rintro ⟨g, hg, hnames⟩
    obtain ⟨m, hm, f, hf, hpath⟩ := (Api.reachesField_iff hmaps).1 hg
    have hmentions :=
      (mentionsTime_fieldType_iff_parts ht hmaps.mapsEnd himports f).2 ⟨g, hpath, hnames⟩
    exact ⟨m, hm, (hfields m).2 ⟨f, hf, hmentions⟩⟩

end GoCodec

/-! ## Compiled files -/

/-- Every map entry has two fields and is the type of a field of the message around it. -/
structure MapEntriesUsed (files : List FileDescriptor) : Prop where
  pair : ∀ d ∈ files.flatMap FileDescriptor.declaredMessages, d.item.isMapEntry = true →
    d.item.fields.length = 2
  used : ∀ d ∈ files.flatMap FileDescriptor.declaredMessages, ∀ e ∈ d.children,
    e.item.isMapEntry = true → ∃ f ∈ d.item.fields,
      f.wireKind? = some .message ∧ textOf f.typeName = e.id

theorem Declaration.package_of_mem_all {d e : Declaration MessageDescriptor} (h : e ∈ d.all) :
    e.package = d.package := by
  induction d using Declaration.induction with
  | h d ih =>
      rcases mem_all.1 h with rfl | ⟨c, hc, he⟩
      · rfl
      · exact (ih c hc he).trans (nested_of_mem_declare hc).1

namespace FileDescriptor

variable {files : List FileDescriptor}

/-- A message is in the package of a file. -/
theorem exists_package_of_message {d : Declaration MessageDescriptor}
    (hd : d ∈ files.flatMap declaredMessages) :
    ∃ file ∈ files, d.package = textOf file.package := by
  obtain ⟨file, hfile, hd⟩ := List.mem_flatMap.1 hd
  obtain ⟨top, htop, hd⟩ := List.mem_flatMap.1 hd
  obtain ⟨i, item, -, rfl⟩ := Position.mem_declare.1 htop
  exact ⟨file, hfile, Declaration.package_of_mem_all hd⟩

theorem exists_package_of_enum {d : Declaration EnumDescriptor}
    (hd : d ∈ files.flatMap declaredEnums) : ∃ file ∈ files, d.package = textOf file.package := by
  rcases enum_cases hd with htop | ⟨m, hm, hmem⟩
  · obtain ⟨file, hfile, htop⟩ := List.mem_flatMap.1 htop
    obtain ⟨i, item, -, rfl⟩ := Position.mem_declare.1 htop
    exact ⟨file, hfile, rfl⟩
  · obtain ⟨file, hfile, hpackage⟩ := exists_package_of_message hm
    exact ⟨file, hfile, (Declaration.nested_of_mem_declare hmem).1.trans hpackage⟩

end FileDescriptor

namespace GoCodec

section Compiled

variable {config : Option ServiceConfig} {compiled : CompiledFiles}

theorem message?_withWellKnownTypes {api : Api} {id : String} {m : Message}
    (h : (withWellKnownTypes api).symbols.message? id = some m) :
    m ∈ wellKnownTypes ∨ api.symbols.message? id = some m := by
  have hfold : ∀ id m, (withWellKnownTypes api).symbols.message? id = some m →
      m ∈ wellKnownTypes ∨ api.symbols.message? id = some m := by
    refine List.foldlRecOn
      (motive := fun u : Api => ∀ id m, u.symbols.message? id = some m →
        m ∈ wellKnownTypes ∨ api.symbols.message? id = some m)
      wellKnownTypes standIn (fun id m hm => Or.inr hm) ?_
    intro u hu stand hstand id m hm
    rcases eq_or_message?_of_standIn hm with rfl | hm
    · exact Or.inl hstand
    · exact hu id m hm
  exact hfold id m h

theorem enum?_withWellKnownTypes (api : Api) (id : String) :
    (withWellKnownTypes api).symbols.enum? id = api.symbols.enum? id :=
  List.foldlRecOn
    (motive := fun u : Api => u.symbols.enum? id = api.symbols.enum? id)
    wellKnownTypes standIn rfl fun u hu m _ => (enum?_standIn u m id).trans hu

/-- A message that Go types are spelled from is a stand-in, or stands for a declaration. -/
theorem represents_symbolsOf (hids : DistinctIds compiled.files) {id : String} {m : Message}
    (hm : (symbolsOf config compiled).message? id = some m) :
    m ∈ wellKnownTypes ∨ ∃ d ∈ compiled.files.flatMap FileDescriptor.declaredMessages,
      d.id = id ∧ m.Represents d ∧ List.Forall₂ Field.TypedAs d.item.fields m.fields := by
  rcases message?_withWellKnownTypes hm with hstand | hcompiled
  · exact Or.inl hstand
  · obtain ⟨d, hd, rfl, hrep⟩ := Api.exists_represents_message hids hcompiled
    obtain ⟨n, hn, hcases⟩ := @exists_message?_symbolsOf config compiled hids d hd
    obtain rfl : m = n := Option.some.inj (hm.symm.trans hn)
    rcases hcases with htyped | hstand
    · exact Or.inr ⟨d, hd, rfl, hrep, htyped⟩
    · exact Or.inl hstand

/-- A map entry of the table stands for a declared one. -/
theorem represents_of_isMapEntry (hids : DistinctIds compiled.files) {id : String}
    (h : (symbolsOf config compiled).IsMapEntry id) :
    ∃ d ∈ compiled.files.flatMap FileDescriptor.declaredMessages,
      d.id = id ∧ d.item.isMapEntry = true := by
  have hstandIns : ∀ m ∈ wellKnownTypes, m.isMap = false := by decide
  obtain ⟨m, hm, hmap⟩ := h
  rcases represents_symbolsOf hids hm with hstand | ⟨d, hd, hid, hrep, -⟩
  · rw [hstandIns m hstand] at hmap
    cases hmap
  · exact ⟨d, hd, hid, hrep.isMap ▸ hmap⟩

/-- The kind of a field with a type is that on the wire. -/
theorem wireKind?_of_typedAs {d : FieldDescriptor} {f : Field} (h : f.TypedAs d) {kind : TypeKind}
    (hkind : f.kind = kind) (hknown : kind ≠ .undefined) : d.wireKind? = some kind := by
  have heq := h.kind.symm.trans hkind
  cases hwire : d.wireKind? with
  | none =>
      rw [hwire, Option.getD_none] at heq
      exact absurd heq.symm hknown
  | some wire =>
      rw [hwire, Option.getD_some] at heq
      rw [heq]

/-- **Map entries are owned in the table of files in which they are used as maps are.** -/
theorem mapsOwned_symbolsOf (hids : DistinctIds compiled.files)
    (hplain : PlainMapEntries compiled.files) (howned : MapEntriesOwned compiled.files)
    (hused : MapEntriesUsed compiled.files) : (symbolsOf config compiled).MapsOwned := by
  have hstandIns : ∀ m ∈ wellKnownTypes, m.isMap = false ∧ m.messages = [] ∧ m.fields = [] := by
    decide
  refine ⟨?leaf, ?pair, ?used, ?owned⟩
  case leaf =>
    intro id m hm hmap
    rcases represents_symbolsOf hids hm with hstand | ⟨d, hd, -, hrep, -⟩
    · exact (hstandIns m hstand).2.1
    · have hnested := (hplain.leaf d hd (hrep.isMap ▸ hmap)).1
      rw [hrep.messages, Declaration.map_id_children, hnested, List.map_nil]
  case pair =>
    intro id m hm hmap
    rcases represents_symbolsOf hids hm with hstand | ⟨d, hd, -, hrep, htyped⟩
    · rw [(hstandIns m hstand).1] at hmap
      cases hmap
    · have hlength := htyped.length_eq ▸ hused.pair d hd (hrep.isMap ▸ hmap)
      exact List.length_eq_two.1 hlength
  case used =>
    intro id outer houter inner hinner hentry
    rcases represents_symbolsOf hids houter with hstand | ⟨d, hd, -, hrep, htyped⟩
    · rw [(hstandIns outer hstand).2.1] at hinner
      cases hinner
    · rw [hrep.messages] at hinner
      obtain ⟨e, he, rfl⟩ := List.mem_map.1 hinner
      obtain ⟨e', he', hid, hmap⟩ := represents_of_isMapEntry hids hentry
      obtain rfl : e' = e :=
        List.inj_on_of_nodup_map hids.messages he' (FileDescriptor.children_declared hd he) hid
      obtain ⟨fd, hfd, hwire, htype⟩ := hused.used d hd e' he hmap
      obtain ⟨f, hf, hfield⟩ := exists_mem_of_forall₂ htyped.flip hfd
      have hkind : f.kind = .message := by rw [hfield.kind, hwire, Option.getD_some]
      refine ⟨f, hf, hkind, ?_⟩
      rw [hfield.typeId, hkind, htype]
      rfl
  case owned =>
    intro id outer houter f hf hkind hentry
    rcases represents_symbolsOf hids houter with hstand | ⟨d, hd, -, hrep, htyped⟩
    · rw [(hstandIns outer hstand).2.2] at hf
      cases hf
    · obtain ⟨fd, hfd, hfield⟩ := exists_mem_of_forall₂ htyped hf
      have htype : f.typeId.getD "" = textOf fd.typeName := by
        rw [hfield.typeId, hkind]
        rfl
      obtain ⟨e, he, hid, hmap⟩ := represents_of_isMapEntry hids hentry
      have hwire := wireKind?_of_typedAs hfield hkind (by decide)
      have hparent := howned d hd fd hfd hwire e he hmap (hid.trans htype)
      have hchild := Declaration.mem_children_of_parent hids.messages hd he hparent
      rw [hrep.messages, ← hid]
      exact List.mem_map_of_mem hchild

/-- A message of the time package is a stand-in, if no file is in that package. -/
theorem mem_wellKnownTypes_of_package (hids : DistinctIds compiled.files)
    (hpackage : ∀ file ∈ compiled.files, textOf file.package ≠ timePackage) {id : String}
    {m : Message} (hm : (symbolsOf config compiled).message? id = some m)
    (htime : m.package = timePackage) : m ∈ wellKnownTypes := by
  rcases represents_symbolsOf hids hm with hstand | ⟨d, hd, -, hrep, -⟩
  · exact hstand
  · obtain ⟨file, hfile, hfrom⟩ := FileDescriptor.exists_package_of_message hd
    exact absurd ((hfrom.symm.trans hrep.package.symm).trans htime) (hpackage file hfile)

/-- No enum is in the time package, if no file is. -/
theorem package_ne_of_enum (hids : DistinctIds compiled.files)
    (hpackage : ∀ file ∈ compiled.files, textOf file.package ≠ timePackage) {id : String}
    {e : Enum} (he : (symbolsOf config compiled).enum? id = some e) : e.package ≠ timePackage := by
  obtain ⟨d, hd, -, hrep⟩ :=
    Api.exists_represents_enum hids ((enum?_withWellKnownTypes _ id).symm.trans he)
  obtain ⟨file, hfile, hfrom⟩ := FileDescriptor.exists_package_of_enum hd
  rw [hrep.package, hfrom]
  exact hpackage file hfile

/-- A field that is reached has the type that a declared one has. -/
theorem typedAs_of_reachesField (hids : DistinctIds compiled.files) {f : Field}
    (h : (withWellKnownTypes (Api.ofCompiled config compiled)).ReachesField f) :
    ∃ d ∈ compiled.files.flatMap FileDescriptor.declaredMessages, ∃ fd ∈ d.item.fields,
      f.TypedAs fd := by
  have hstandIns : ∀ m ∈ wellKnownTypes, m.fields = [] := by decide
  obtain ⟨m, hm, hf⟩ := h
  obtain ⟨id, hid⟩ := hm.exists_id
  rcases @represents_symbolsOf config compiled hids id m hid with hstand | ⟨d, hd, -, -, htyped⟩
  · rw [hstandIns m hstand] at hf
    cases hf
  · obtain ⟨fd, hfd, hfield⟩ := exists_mem_of_forall₂ htyped hf
    exact ⟨d, hd, fd, hfd, hfield⟩

/-- A field that refers to a time type is a message field, unless it is of an enum type. -/
theorem kind_of_refersTo_time (hids : DistinctIds compiled.files)
    (hpackage : ∀ file ∈ compiled.files, textOf file.package ≠ timePackage)
    (hgroups : ∀ d ∈ compiled.files.flatMap FileDescriptor.declaredMessages,
      ∀ f ∈ d.item.fields, f.wireKind? ≠ some .group) {f : Field}
    (hf : (withWellKnownTypes (Api.ofCompiled config compiled)).ReachesField f)
    (h : (symbolsOf config compiled).RefersTo timePackage f)
    (henum : f.kind = .enum → ∀ m ∈ wellKnownTypes, f.typeId ≠ some m.id) : f.kind = .message := by
  obtain ⟨hreference, m, hm, htime⟩ := h
  obtain ⟨id, hid, hm⟩ := Option.bind_eq_some_iff.1 hm
  cases hkind : f.kind with
  | message => rfl
  | enum =>
      have hstand := mem_wellKnownTypes_of_package hids hpackage hm htime
      have hlinked : (symbolsOf config compiled).Linked :=
        linked_withWellKnownTypes (Api.linked_ofCompiled config compiled)
      have hown : m.id = id := (hlinked.message id m hm).id
      exact absurd (hown ▸ hid) (henum hkind m hstand)
  | group =>
      obtain ⟨d, hd, fd, hfd, hfield⟩ := typedAs_of_reachesField hids hf
      exact absurd (wireKind?_of_typedAs hfield hkind (by decide)) (hgroups d hd fd hfd)
  | _ =>
      rw [hkind] at hreference
      cases hreference

/-- The type of a message field that refers to a time type is spelled with its name. -/
theorem names_of_refersTo_time (hids : DistinctIds compiled.files)
    (hpackage : ∀ file ∈ compiled.files, textOf file.package ≠ timePackage) {f : Field}
    (hkind : f.kind = .message) (h : (symbolsOf config compiled).RefersTo timePackage f) :
    (symbolsOf config compiled).Names timePackage f := by
  have hstandIns : ∀ m ∈ wellKnownTypes, m.isMap = false ∧ m.parent = none := by decide
  obtain ⟨-, m, hm, htime⟩ := h
  obtain ⟨id, hid, hm⟩ := Option.bind_eq_some_iff.1 hm
  obtain ⟨hmap, hparent⟩ := hstandIns m (mem_wellKnownTypes_of_package hids hpackage hm htime)
  have htop : m.parent.bind (symbolsOf config compiled).message? = none := by
    rw [hparent, Option.bind_none]
  rw [SymbolTable.Names, hkind, hid]
  exact ⟨m, hm, hmap, .top htop htime⟩

/-- A field whose type is spelled with a name of the time package refers to a time type, unless its
type is nested in one. -/
theorem refersTo_of_names_time (hids : DistinctIds compiled.files)
    (hpackage : ∀ file ∈ compiled.files, textOf file.package ≠ timePackage) {f : Field}
    (hf : (withWellKnownTypes (Api.ofCompiled config compiled)).ReachesField f)
    (h : (symbolsOf config compiled).Names timePackage f)
    (hinside : ¬(symbolsOf config compiled).NamesInside timePackage f) :
    (symbolsOf config compiled).RefersTo timePackage f := by
  unfold SymbolTable.Names at h
  split at h
  case h_1 hkind =>
    obtain ⟨m, hm, -, hwithin⟩ := h
    cases hwithin with
    | top _ htime =>
        obtain ⟨d, -, fd, -, hfield⟩ := typedAs_of_reachesField hids hf
        have htype : f.typeId = some (textOf fd.typeName) := by
          rw [hfield.typeId, hkind]
          rfl
        rw [htype, Option.getD_some] at hm
        refine ⟨by rw [hkind]; rfl, m, ?_, htime⟩
        rw [htype, Option.bind_some, hm]
    | nested haround houter =>
        exact absurd ⟨_, houter, Or.inl ⟨hkind, m, hm, haround⟩⟩ hinside
  case h_2 hkind =>
    obtain ⟨e, he, ⟨-, htime⟩ | ⟨outer, hparent, houter⟩⟩ := h
    · exact absurd htime (package_ne_of_enum hids hpackage he)
    · exact absurd ⟨outer, houter, Or.inr ⟨hkind, e, he, hparent⟩⟩ hinside
  case h_3 => cases h

/-- Import and mention of the time package, for an API and its view.  A field that is reached makes
for the import if it refers to a message of the package, and for a mention if its type is spelled
with a name of the package.  The two differ where the type is nested in a message of the package,
and where an enum-typed field has the identifier of a time type. -/
structure TimeImport (c : GoCodec) (api : Api) (view : ApiView) : Prop where
  imported : Text.quoted timePackage ∈ c.imports api ↔
    ∃ f, api.ReachesField f ∧ api.symbols.RefersTo timePackage f
  mentioned : RecordsMentionTime view ↔
    ∃ f, api.ReachesField f ∧ api.symbols.Names timePackage f
  justified : (∀ f, api.ReachesField f → f.kind = .enum → ∀ m ∈ wellKnownTypes,
      f.typeId ≠ some m.id) →
    Text.quoted timePackage ∈ c.imports api → RecordsMentionTime view
  sufficient : (∀ f, api.ReachesField f → ¬api.symbols.NamesInside timePackage f) →
    RecordsMentionTime view → Text.quoted timePackage ∈ c.imports api

/-- **The time package is imported for the time types, but not for what is nested in them.**  For
files outside of the time package, without groups, in which map entries are used as maps are, the
codec without import mappings gives a view.  It imports the time package if a field that is reached
refers to a time type, and spells a type with the name of that package if a field has the type of a
time type or of something nested in one.  So the package is imported where it is mentioned as long
as no field has a type that is nested in a time type. -/
theorem timeImport_exact (config : Option ServiceConfig)
    (hids : DistinctIds compiled.files)
    (hpackage : ∀ file ∈ compiled.files, textOf file.package ≠ timePackage)
    (hgroups : ∀ d ∈ compiled.files.flatMap FileDescriptor.declaredMessages,
      ∀ f ∈ d.item.fields, f.wireKind? ≠ some .group)
    (hplain : PlainMapEntries compiled.files) (howned : MapEntriesOwned compiled.files)
    (hused : MapEntriesUsed compiled.files) {c : GoCodec} (himports : c.importMap = ∅) :
    ∃ view, c.toCodec.apiView (withWellKnownTypes (Api.ofCompiled config compiled)) = .ok view ∧
      c.TimeImport (withWellKnownTypes (Api.ofCompiled config compiled)) view := by
  have hlinked := linked_withWellKnownTypes (Api.linked_ofCompiled config compiled)
  have hmaps : (symbolsOf config compiled).MapsOwned :=
    mapsOwned_symbolsOf hids hplain howned hused
  obtain ⟨view, hview⟩ := Codec.exists_apiView_of_namesGroups c.namesGroups
    (withWellKnownTypes (Api.ofCompiled config compiled))
  have himported := imports_time_iff (c := c) hlinked himports
  have hmentioned := recordsMentionTime_iff hlinked hmaps himports hview
  refine ⟨view, hview, himported, hmentioned, ?justified, ?sufficient⟩
  case justified =>
    intro henums himport
    obtain ⟨f, hf, href⟩ := himported.1 himport
    have hkind := kind_of_refersTo_time hids hpackage hgroups hf href (henums f hf)
    exact hmentioned.2 ⟨f, hf, names_of_refersTo_time hids hpackage hkind href⟩
  case sufficient =>
    intro hinside hmentions
    obtain ⟨f, hf, hnames⟩ := hmentioned.1 hmentions
    exact himported.2 ⟨f, hf, refersTo_of_names_time hids hpackage hf hnames (hinside f hf)⟩

end Compiled

end GoCodec

/-! ### Examples -/

/-- The loans of the library have a time stamp. -/
theorem libraryLoans_timeImport :
    DistinctIds libraryLoans.files ∧
      (∀ file ∈ libraryLoans.files, textOf file.package ≠ GoCodec.timePackage) ∧
      (∀ d ∈ libraryLoans.files.flatMap FileDescriptor.declaredMessages,
        ∀ f ∈ d.item.fields, f.wireKind? ≠ some .group) ∧
      PlainMapEntries libraryLoans.files ∧ MapEntriesOwned libraryLoans.files ∧
      MapEntriesUsed libraryLoans.files ∧ ({ year := "2024" } : GoCodec).importMap = ∅ ∧
      ∃ view, ({ year := "2024" } : GoCodec).toCodec.apiView
          (GoCodec.withWellKnownTypes (Api.ofCompiled none libraryLoans)) = .ok view ∧
        ({ year := "2024" } : GoCodec).TimeImport
          (GoCodec.withWellKnownTypes (Api.ofCompiled none libraryLoans)) view := by
  have hids : DistinctIds libraryLoans.files := ⟨by decide, by decide, by decide⟩
  have hpackage : ∀ file ∈ libraryLoans.files, textOf file.package ≠ GoCodec.timePackage := by
    decide
  have hgroups : ∀ d ∈ libraryLoans.files.flatMap FileDescriptor.declaredMessages,
      ∀ f ∈ d.item.fields, f.wireKind? ≠ some .group := by decide
  have hplain : PlainMapEntries libraryLoans.files := ⟨by decide, by decide⟩
  have howned : MapEntriesOwned libraryLoans.files := by
    unfold MapEntriesOwned
    decide
  have hused : MapEntriesUsed libraryLoans.files := ⟨by decide, by decide⟩
  exact ⟨hids, hpackage, hgroups, hplain, howned, hused, rfl,
    GoCodec.timeImport_exact none hids hpackage hgroups hplain howned hused rfl⟩

/-- Events in a time zone, which is declared in the time stamp. -/
def zonedEvents : CompiledFiles :=
  let stamps : FileDescriptor :=
    { package := some "google.protobuf"
      messageTypes :=
        [{ name := some "Timestamp", nestedTypes := [{ name := some "Zone" }] }] }
  let events : FileDescriptor :=
    { package := some "p"
      messageTypes :=
        [{ name := some "Event"
           fields :=
             [{ name := some "zone", label := some 1, type := some 11,
                typeName := some ".google.protobuf.Timestamp.Zone" }] }] }
  { targets := [events], files := [stamps, events] }

/-- The type of the zone mentions the time package, which is not imported. -/
theorem zonedEvents_notImported :
    zonedEvents.targets.Sublist zonedEvents.files ∧ DistinctIds zonedEvents.files ∧
      (∀ file ∈ zonedEvents.files, textOf file.package ≠ GoCodec.timePackage) ∧
      (∀ d ∈ zonedEvents.files.flatMap FileDescriptor.declaredMessages, ∀ f ∈ d.item.fields,
        f.wireKind? ≠ some .group ∧ f.wireKind? ≠ some .enum) ∧
      PlainMapEntries zonedEvents.files ∧ MapEntriesOwned zonedEvents.files ∧
      MapEntriesUsed zonedEvents.files ∧ ({ year := "2024" } : GoCodec).importMap = ∅ ∧
      ∃ view, ({ year := "2024" } : GoCodec).toCodec.apiView
          (GoCodec.withWellKnownTypes (Api.ofCompiled none zonedEvents)) = .ok view ∧
        GoCodec.RecordsMentionTime view ∧
        Text.quoted GoCodec.timePackage ∉ ({ year := "2024" } : GoCodec).imports
          (GoCodec.withWellKnownTypes (Api.ofCompiled none zonedEvents)) := by
  have howned : MapEntriesOwned zonedEvents.files := by
    unfold MapEntriesOwned
    decide
  have htypes : ((({ year := "2024" } : GoCodec).toCodec.apiView
      (GoCodec.withWellKnownTypes (Api.ofCompiled none zonedEvents))).toOption.map
        fun view => view.messageRecords.map fun r => r.fields.map FieldView.fieldType)
      = some [["*time.Time_Zone"]] := by
    decide +kernel
  refine ⟨(List.Sublist.refl _).cons _, ⟨by decide, by decide, by decide⟩, by decide, by decide,
    ⟨by decide, by decide⟩, howned, ⟨by decide, by decide⟩, rfl, ?_⟩
  cases hview : ({ year := "2024" } : GoCodec).toCodec.apiView
      (GoCodec.withWellKnownTypes (Api.ofCompiled none zonedEvents)) with
  | error e =>
      rw [hview] at htypes
      cases htypes
  | ok view =>
      rw [hview] at htypes
      have hrecords : view.messageRecords.map (fun r => r.fields.map FieldView.fieldType)
          = [["*time.Time_Zone"]] := Option.some.inj htypes
      refine ⟨view, rfl, ?_, by decide +kernel⟩
      obtain ⟨r, rest, hcons, hr, -⟩ := List.map_eq_cons_iff.1 hrecords
      obtain ⟨f, rest', hfields, hf, -⟩ := List.map_eq_cons_iff.1 hr
      have hmentions : GoCodec.MentionsTime f.fieldType := by
        rw [hf]
        decide
      exact ⟨r, hcons ▸ List.mem_cons_self .., f, hfields ▸ List.mem_cons_self .., hmentions⟩

end ClientGen
