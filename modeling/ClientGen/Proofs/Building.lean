import ClientGen.Proofs.Documentation
import ClientGen.Proofs.Registration
import ClientGen.Schema.Build

/-!
# What the API of compiled files holds

An API is built file by file.  A file to generate from adds its services to the symbol table, writes
its comments and selects what stands at its top level (`SymbolTable.complete`).

* `undocumented_symbols_ofCompiled` — but for documentation, the table of the API is that of all
  files with the services of the files to generate from.
* `messages_ofCompiled`, `enums_ofCompiled`, `services_ofCompiled` — what is selected.
-/

namespace ClientGen

/-! ## Services -/

theorem Message.undocumented_undocumented (m : Message) :
    m.undocumented.undocumented = m.undocumented := by
  simp [Message.undocumented, Field.undocumented, OneOf.undocumented, Function.comp_def]

namespace ServiceDescriptor

variable (s : ServiceDescriptor) (t : SymbolTable) (package : String)

theorem queryParameters_undocumented (template : List PathSegment) (body : Option String)
    (input : Option Message) :
    queryParameters template body (input.map Message.undocumented)
      = queryParameters template body input := by
  cases input with
  | none => rfl
  | some m =>
      have hnames : (m.fields.map Field.undocumented).map (·.name) = m.fields.map (·.name) := by
        rw [List.map_map]
        rfl
      simp only [Option.map_some, queryParameters, Message.undocumented, hnames]

theorem binding?_congr {t u : SymbolTable}
    (h : ∀ id,
      (t.message? id).map Message.undocumented = (u.message? id).map Message.undocumented)
    (m : MethodDescriptor) : m.binding? t = m.binding? u := by
  have hq : ∀ template body id, queryParameters template body (t.message? id)
      = queryParameters template body (u.message? id) := by
    intro template body id
    rw [← queryParameters_undocumented, h, queryParameters_undocumented]
  simp only [MethodDescriptor.binding?, hq]

/-- A service depends on the messages of the table only, and not on what is written in them. -/
theorem toService_congr {t u : SymbolTable}
    (h : ∀ id,
      (t.message? id).map Message.undocumented = (u.message? id).map Message.undocumented) :
    s.toService t package = s.toService u package := by
  simp only [toService, MethodDescriptor.toMethod?, binding?_congr h]

/-- A new service has no documentation. -/
theorem undocumented_toService :
    (s.toService t package).undocumented = s.toService t package := by
  have hmethods : ∀ ms : List MethodDescriptor,
      (ms.filterMap (·.toMethod? t)).map Method.undocumented = ms.filterMap (·.toMethod? t) := by
    intro ms
    rw [List.map_filterMap]
    refine List.filterMap_congr fun m _ => ?_
    rw [MethodDescriptor.toMethod?, Option.map_map]
    rfl
  simp only [Service.undocumented, toService, hmethods]

/-- Methods without a usable binding are left out. -/
theorem map_name_toService_sublist :
    ((s.toService t package).methods.map Method.name).Sublist (s.methods.map nameOf) := by
  rw [toService]
  induction s.methods with
  | nil => exact List.Sublist.refl _
  | cons m ms ih =>
      rw [List.filterMap_cons]
      cases hm : m.toMethod? t with
      | none => exact ih.cons _
      | some method =>
          obtain ⟨binding, -, rfl⟩ := Option.map_eq_some_iff.1 hm
          exact ih.cons_cons _

end ServiceDescriptor

theorem FileDescriptor.enclosing_of_mem_declaredServices (file : FileDescriptor) :
    ∀ d ∈ file.declaredServices, d.enclosing = [] := by
  intro d hd
  obtain ⟨i, s, -, rfl⟩ := Position.mem_declare.1 hd
  rfl

theorem enclosing_of_mem_flatMap {files : List FileDescriptor} :
    ∀ d ∈ files.flatMap FileDescriptor.declaredServices, d.enclosing = [] := by
  intro d hd
  obtain ⟨file, -, hd⟩ := List.mem_flatMap.1 hd
  exact file.enclosing_of_mem_declaredServices d hd

theorem ServiceDescriptor.id_toService (t : SymbolTable) {d : Declaration ServiceDescriptor}
    (h : d.enclosing = []) : (d.item.toService t d.package).id = d.id := by
  rw [Declaration.id, Position.scope, h]
  rfl

namespace SymbolTable

/-- Enters a declared service. -/
def enterService (t : SymbolTable) (d : Declaration ServiceDescriptor) : SymbolTable :=
  t.addService (d.item.toService t d.package)

/-- Enters the services of a file, then attaches the comments of the file. -/
def complete (t : SymbolTable) (file : FileDescriptor) : SymbolTable :=
  (file.declaredServices.foldl enterService t).documentFile file

variable (t : SymbolTable) (d : Declaration ServiceDescriptor) (id : String)

@[simp] theorem message?_enterService : (t.enterService d).message? id = t.message? id := rfl

@[simp] theorem enum?_enterService : (t.enterService d).enum? id = t.enum? id := rfl

theorem service?_enterService {d : Declaration ServiceDescriptor} (h : d.enclosing = []) :
    (t.enterService d).service? id
      = if id = d.id then some (d.item.toService t d.package) else t.service? id := by
  rw [enterService, service?_addService, ServiceDescriptor.id_toService t h]

theorem undocumented_enterService :
    (t.enterService d).undocumented = t.undocumented.enterService d := by
  have hservice : d.item.toService t.undocumented d.package = d.item.toService t d.package :=
    ServiceDescriptor.toService_congr _ _ fun id => by
      simp [Function.comp_def, Message.undocumented_undocumented]
  refine ext_get? (fun id => by simp) (fun id => by simp) fun id => ?_
  simp only [enterService, service?_undocumented, service?_addService, hservice]
  split
  · rw [Option.map_some, ServiceDescriptor.undocumented_toService]
  · rfl

theorem undocumented_foldl_enterService (ds : List (Declaration ServiceDescriptor)) :
    (ds.foldl enterService t).undocumented = ds.foldl enterService t.undocumented := by
  induction ds generalizing t with
  | nil => rfl
  | cons d ds ih => rw [List.foldl_cons, ih, undocumented_enterService, List.foldl_cons]

theorem messages_foldl_enterService (ds : List (Declaration ServiceDescriptor)) :
    (ds.foldl enterService t).messages = t.messages := by
  induction ds generalizing t with
  | nil => rfl
  | cons d ds ih => rw [List.foldl_cons, ih, enterService, addService]

@[simp] theorem message?_foldl_enterService (ds : List (Declaration ServiceDescriptor)) :
    (ds.foldl enterService t).message? id = t.message? id := by
  rw [message?, messages_foldl_enterService, message?]

@[simp] theorem enum?_foldl_enterService (ds : List (Declaration ServiceDescriptor)) :
    (ds.foldl enterService t).enum? id = t.enum? id := by
  induction ds generalizing t with
  | nil => rfl
  | cons d ds ih => rw [List.foldl_cons, ih, enum?_enterService]

variable {ds : List (Declaration ServiceDescriptor)}

theorem service?_foldl_enterService_of_notMem (htop : ∀ d ∈ ds, d.enclosing = [])
    (hid : id ∉ ds.map Declaration.id) :
    (ds.foldl enterService t).service? id = t.service? id := by
  induction ds generalizing t with
  | nil => rfl
  | cons d ds ih =>
      rw [List.map_cons, List.mem_cons, not_or] at hid
      rw [List.foldl_cons, ih _ (fun e he => htop e (List.mem_cons_of_mem _ he)) hid.2,
        service?_enterService _ _ (htop d (List.mem_cons_self ..)), if_neg hid.1]

theorem service?_foldl_enterService_of_mem (htop : ∀ d ∈ ds, d.enclosing = [])
    (hnd : (ds.map Declaration.id).Nodup) {d : Declaration ServiceDescriptor} (hd : d ∈ ds) :
    (ds.foldl enterService t).service? d.id = some (d.item.toService t d.package) := by
  induction ds generalizing t with
  | nil => cases hd
  | cons e ds ih =>
      rw [List.map_cons, List.nodup_cons] at hnd
      have htail : ∀ d ∈ ds, d.enclosing = [] := fun d hd => htop d (List.mem_cons_of_mem _ hd)
      rw [List.foldl_cons]
      rcases List.mem_cons.1 hd with rfl | hd
      · rw [service?_foldl_enterService_of_notMem _ _ htail hnd.1,
          service?_enterService _ _ (htop d (List.mem_cons_self ..)), if_pos rfl]
      · rw [ih _ htail hnd.2 hd, ServiceDescriptor.toService_congr]
        exact fun _ => rfl

/-! ## One file after the other -/

theorem undocumented_complete (file : FileDescriptor) :
    (t.complete file).undocumented = file.declaredServices.foldl enterService t.undocumented := by
  rw [complete, undocumented_documentFile, undocumented_foldl_enterService]

theorem undocumented_foldl_complete (files : List FileDescriptor) :
    (files.foldl complete t).undocumented
      = (files.flatMap FileDescriptor.declaredServices).foldl enterService t.undocumented := by
  induction files generalizing t with
  | nil => rfl
  | cons file files ih =>
      rw [List.foldl_cons, ih, undocumented_complete, List.flatMap_cons, List.foldl_append]

theorem isSome_message?_complete (file : FileDescriptor) :
    ((t.complete file).message? id).isSome = (t.message? id).isSome := by
  have h := congrArg (fun u => (u.message? id).isSome) (undocumented_complete t file)
  simpa using h

theorem isSome_enum?_complete (file : FileDescriptor) :
    ((t.complete file).enum? id).isSome = (t.enum? id).isSome := by
  have h := congrArg (fun u => (u.enum? id).isSome) (undocumented_complete t file)
  simpa using h

end SymbolTable

namespace Api

theorem foldl_selectService (package : String) (ss : List ServiceDescriptor) (api : Api) :
    ss.foldl (selectService package) api
      = { api with
          services := api.services ++
            ss.map fun s => Identifier.child (Identifier.ofPackage package) (nameOf s)
          symbols := ss.foldl (fun t s => t.addService (s.toService t package)) api.symbols } := by
  induction ss generalizing api with
  | nil => simp
  | cons s ss ih =>
      rw [List.foldl_cons, ih, List.map_cons, List.foldl_cons, selectService]
      simp only [List.append_assoc]
      rfl

variable (api : Api) (file : FileDescriptor)

theorem selectFile_eq :
    api.selectFile file
      = { api with
          messages := api.messages ++
            (file.topMessages.map Declaration.id).filter fun id => (api.symbols.message? id).isSome
          enums := api.enums ++
            (file.topEnums.map Declaration.id).filter fun id => (api.symbols.enum? id).isSome
          services := api.services ++ file.declaredServices.map Declaration.id
          symbols := api.symbols.complete file } := by
  have hservices : file.declaredServices.foldl SymbolTable.enterService api.symbols
      = file.services.foldl (fun t s => t.addService (s.toService t (textOf file.package)))
          api.symbols :=
    SymbolTable.foldl_declare (fun _ _ _ => rfl) file.services api.symbols
  rw [SymbolTable.complete, hservices, FileDescriptor.topMessages, FileDescriptor.topEnums,
    FileDescriptor.declaredServices, Declaration.map_id_declare, Declaration.map_id_declare,
    Declaration.map_id_declare]
  simp only [selectFile, foldl_selectService, selectMessages, selectEnums]
  rfl

theorem foldl_selectFile (files : List FileDescriptor) :
    files.foldl selectFile api
      = { api with
          messages := api.messages ++ ((files.flatMap FileDescriptor.topMessages).map
            Declaration.id).filter fun id => (api.symbols.message? id).isSome
          enums := api.enums ++ ((files.flatMap FileDescriptor.topEnums).map
            Declaration.id).filter fun id => (api.symbols.enum? id).isSome
          services := api.services ++
            (files.flatMap FileDescriptor.declaredServices).map Declaration.id
          symbols := files.foldl SymbolTable.complete api.symbols } := by
  induction files generalizing api with
  | nil => simp
  | cons file files ih =>
      rw [List.foldl_cons, ih, selectFile_eq]
      simp only [SymbolTable.isSome_message?_complete, SymbolTable.isSome_enum?_complete,
        List.flatMap_cons, List.map_append, List.filter_append, List.append_assoc, List.foldl_cons]

end Api

/-! ## New elements have no documentation -/

theorem Field.undocumented_ofDescriptor (t : SymbolTable) (id : String) (groups : Nat)
    (d : FieldDescriptor) :
    (Field.ofDescriptor t id groups d).undocumented = Field.ofDescriptor t id groups d := by
  rw [Field.ofDescriptor, Field.withWireType]
  split <;> rfl

theorem Field.id_ofDescriptor (t : SymbolTable) (id : String) (groups : Nat)
    (d : FieldDescriptor) :
    (Field.ofDescriptor t id groups d).id = Identifier.child id (nameOf d) := by
  rw [Field.ofDescriptor, Field.withWireType]
  split <;> rfl

/-- Groups without members are left out. -/
theorem OneOf.map_id_ofMessage_sublist (id : String) (d : MessageDescriptor) :
    ((OneOf.ofMessage id d).map OneOf.id).Sublist
      (d.oneofDecls.map fun o => Identifier.child id (nameOf o)) := by
  have hzip : d.oneofDecls.map (fun o => Identifier.child id (nameOf o))
      = (d.oneofDecls.zipIdx.map fun p => Identifier.child id (nameOf p.1)) := by
    conv_lhs => rw [← List.zipIdx_map_fst 0 d.oneofDecls, List.map_map]
    rfl
  refine (List.Sublist.map OneOf.id List.filter_sublist).trans ?_
  rw [hzip, List.map_map]
  exact List.Sublist.refl _

theorem OneOf.undocumented_of_mem {id : String} {d : MessageDescriptor} {o : OneOf}
    (h : o ∈ OneOf.ofMessage id d) : o.undocumented = o := by
  obtain ⟨⟨decl, index⟩, -, rfl⟩ := List.mem_map.1 (List.mem_of_mem_filter h)
  rfl

theorem Message.undocumented_ofDescriptor (t : SymbolTable) (d : MessageDescriptor)
    (id package : String) (parent : Option String) :
    (Message.ofDescriptor t d id package parent).undocumented
      = Message.ofDescriptor t d id package parent := by
  have hfields : (d.fields.map (Field.ofDescriptor t id d.oneofDecls.length)).map
      Field.undocumented = d.fields.map (Field.ofDescriptor t id d.oneofDecls.length) := by
    rw [List.map_map]
    exact List.map_congr_left fun f _ => Field.undocumented_ofDescriptor t id _ f
  have honeOfs : (OneOf.ofMessage id d).map OneOf.undocumented = OneOf.ofMessage id d :=
    (List.map_congr_left (g := (·)) fun o ho => OneOf.undocumented_of_mem ho).trans (List.map_id' _)
  simp only [Message.undocumented, Message.ofDescriptor, hfields, honeOfs]

theorem Enum.undocumented_ofDescriptor (d : EnumDescriptor) (id package : String)
    (parent : Option String) :
    (Enum.ofDescriptor d id package parent).undocumented
      = Enum.ofDescriptor d id package parent := by
  simp [Enum.undocumented, Enum.ofDescriptor, EnumValue.ofEnum, EnumValue.undocumented,
    Function.comp_def]

/-- Documentation does not matter for what an element represents. -/
theorem Message.represents_undocumented {m : Message} {d : Declaration MessageDescriptor} :
    m.undocumented.Represents d ↔ m.Represents d :=
  ⟨fun h => ⟨h.id, h.name, h.package, h.parent, h.messages, h.enums, h.isMap⟩,
    fun h => ⟨h.id, h.name, h.package, h.parent, h.messages, h.enums, h.isMap⟩⟩

theorem Enum.represents_undocumented {e : Enum} {d : Declaration EnumDescriptor} :
    e.undocumented.Represents d ↔ e.Represents d :=
  ⟨fun h => ⟨h.id, h.name, h.package, h.parent⟩, fun h => ⟨h.id, h.name, h.package, h.parent⟩⟩

/-- A table of files has no documentation. -/
theorem SymbolTable.undocumented_ofFiles {files : List FileDescriptor} (hids : DistinctIds files) :
    (ofFiles files).undocumented = ofFiles files := by
  refine ext_get? (fun id => ?_) (fun id => ?_) (fun id => ?_)
  · rw [message?_undocumented]
    by_cases h : id ∈ (files.flatMap FileDescriptor.declaredMessages).map Declaration.id
    · obtain ⟨d, hd, rfl⟩ := List.mem_map.1 h
      obtain ⟨u, -, -, hdm⟩ := entered_ofFiles hids.messages d hd
      rw [hdm, Option.map_some, Message.undocumented_ofDescriptor]
    · rw [(registers_ofFiles files).messageFrame id h]
      rfl
  · rw [enum?_undocumented]
    by_cases h : id ∈ (files.flatMap FileDescriptor.declaredEnums).map Declaration.id
    · obtain ⟨d, hd, rfl⟩ := List.mem_map.1 h
      rw [(registers_ofFiles files).enum hids.enums d hd, Option.map_some,
        Enum.undocumented_ofDescriptor]
    · rw [(registers_ofFiles files).enumFrame id h]
      rfl
  · rw [service?_undocumented, service?, (registers_ofFiles files).services]
    rfl

/-! ## Compiled files -/

section Compiled

variable {config : Option ServiceConfig} {compiled : CompiledFiles}

theorem Api.symbols_ofCompiled :
    (ofCompiled config compiled).symbols
      = compiled.targets.foldl SymbolTable.complete (SymbolTable.ofFiles compiled.files) := by
  rw [ofCompiled, foldl_selectFile]
  rfl

namespace Api

/-- **The table of an API, but for its documentation**: that of all files, with the services of the
files to generate from. -/
theorem undocumented_symbols_ofCompiled :
    (ofCompiled config compiled).symbols.undocumented
      = (compiled.targets.flatMap FileDescriptor.declaredServices).foldl
          SymbolTable.enterService (SymbolTable.ofFiles compiled.files).undocumented := by
  rw [symbols_ofCompiled, SymbolTable.undocumented_foldl_complete]

theorem undocumented_message?_ofCompiled (id : String) :
    ((ofCompiled config compiled).symbols.message? id).map Message.undocumented
      = ((SymbolTable.ofFiles compiled.files).message? id).map Message.undocumented := by
  rw [← SymbolTable.message?_undocumented, undocumented_symbols_ofCompiled,
    SymbolTable.message?_foldl_enterService, SymbolTable.message?_undocumented]

theorem undocumented_enum?_ofCompiled (id : String) :
    ((ofCompiled config compiled).symbols.enum? id).map Enum.undocumented
      = ((SymbolTable.ofFiles compiled.files).enum? id).map Enum.undocumented := by
  rw [← SymbolTable.enum?_undocumented, undocumented_symbols_ofCompiled,
    SymbolTable.enum?_foldl_enterService, SymbolTable.enum?_undocumented]

/-- When no two identifiers are the same, the table of the files has no documentation itself. -/
theorem undocumented_ofCompiled (hids : DistinctIds compiled.files) :
    (ofCompiled config compiled).symbols.undocumented
      = (compiled.targets.flatMap FileDescriptor.declaredServices).foldl
          SymbolTable.enterService (SymbolTable.ofFiles compiled.files) := by
  rw [undocumented_symbols_ofCompiled, SymbolTable.undocumented_ofFiles hids]

theorem message?_ofCompiled (hids : DistinctIds compiled.files) (id : String) :
    ((ofCompiled config compiled).symbols.message? id).map Message.undocumented
      = (SymbolTable.ofFiles compiled.files).message? id := by
  rw [undocumented_message?_ofCompiled, ← SymbolTable.message?_undocumented,
    SymbolTable.undocumented_ofFiles hids]

/-- The messages of the table are those of all files. -/
theorem isSome_message?_ofCompiled (id : String) :
    ((ofCompiled config compiled).symbols.message? id).isSome
      ↔ id ∈ (compiled.files.flatMap FileDescriptor.declaredMessages).map Declaration.id := by
  rw [← Option.isSome_map (f := Message.undocumented), undocumented_message?_ofCompiled,
    Option.isSome_map, SymbolTable.isSome_message?_ofFiles]

theorem isSome_enum?_ofCompiled (id : String) :
    ((ofCompiled config compiled).symbols.enum? id).isSome
      ↔ id ∈ (compiled.files.flatMap FileDescriptor.declaredEnums).map Declaration.id := by
  rw [← Option.isSome_map (f := Enum.undocumented), undocumented_enum?_ofCompiled,
    Option.isSome_map, SymbolTable.isSome_enum?_ofFiles]

theorem enum?_ofCompiled (hids : DistinctIds compiled.files) (id : String) :
    ((ofCompiled config compiled).symbols.enum? id).map Enum.undocumented
      = (SymbolTable.ofFiles compiled.files).enum? id := by
  rw [undocumented_enum?_ofCompiled, ← SymbolTable.enum?_undocumented,
    SymbolTable.undocumented_ofFiles hids]

variable (config) in
theorem service?_ofCompiled_of_mem (hids : DistinctIds compiled.files)
    (hsub : compiled.targets.Sublist compiled.files) {d : Declaration ServiceDescriptor}
    (hd : d ∈ compiled.targets.flatMap FileDescriptor.declaredServices) :
    ((ofCompiled config compiled).symbols.service? d.id).map Service.undocumented
      = some (d.item.toService (SymbolTable.ofFiles compiled.files) d.package) := by
  rw [← SymbolTable.service?_undocumented, undocumented_ofCompiled hids]
  exact SymbolTable.service?_foldl_enterService_of_mem _
    enclosing_of_mem_flatMap (hids.sublist hsub).services hd

theorem service?_ofCompiled_of_notMem (hids : DistinctIds compiled.files) {id : String}
    (hid : id ∉ (compiled.targets.flatMap FileDescriptor.declaredServices).map Declaration.id) :
    (ofCompiled config compiled).symbols.service? id = none := by
  rw [← Option.map_eq_none_iff, ← SymbolTable.service?_undocumented, undocumented_ofCompiled hids,
    SymbolTable.service?_foldl_enterService_of_notMem _ _
      enclosing_of_mem_flatMap hid]
  rw [SymbolTable.service?, (SymbolTable.registers_ofFiles compiled.files).services]
  rfl

/-- The services of an API are those of the files to generate from. -/
theorem exists_of_service?_ofCompiled (hids : DistinctIds compiled.files)
    (hsub : compiled.targets.Sublist compiled.files) {id : String} {s : Service}
    (hs : (ofCompiled config compiled).symbols.service? id = some s) :
    ∃ d ∈ compiled.targets.flatMap FileDescriptor.declaredServices, d.id = id ∧
      s.undocumented = d.item.toService (SymbolTable.ofFiles compiled.files) d.package := by
  by_cases hid : id ∈ (compiled.targets.flatMap FileDescriptor.declaredServices).map Declaration.id
  · obtain ⟨d, hd, rfl⟩ := List.mem_map.1 hid
    have h := service?_ofCompiled_of_mem config hids hsub hd
    rw [hs] at h
    exact ⟨d, hd, rfl, Option.some.inj h⟩
  · rw [service?_ofCompiled_of_notMem hids hid] at hs
    cases hs

/-- All messages at the top level of the files to generate from are selected. -/
theorem messages_ofCompiled (hsub : compiled.targets.Sublist compiled.files) :
    (ofCompiled config compiled).messages
      = (compiled.targets.flatMap FileDescriptor.topMessages).map Declaration.id := by
  have hnamed : (named config).messages = [] := by cases config <;> rfl
  rw [ofCompiled, foldl_selectFile, hnamed, List.nil_append, List.filter_eq_self]
  intro id hid
  refine (SymbolTable.isSome_message?_ofFiles compiled.files id).2 ?_
  obtain ⟨d, hd, rfl⟩ := List.mem_map.1 hid
  obtain ⟨file, hfile, hd⟩ := List.mem_flatMap.1 hd
  exact List.mem_map_of_mem
    (List.mem_flatMap.2 ⟨file, hsub.subset hfile, file.mem_declaredMessages_of_top hd⟩)

/-- All enums at the top level of the files to generate from are selected. -/
theorem enums_ofCompiled (hsub : compiled.targets.Sublist compiled.files) :
    (ofCompiled config compiled).enums
      = (compiled.targets.flatMap FileDescriptor.topEnums).map Declaration.id := by
  have hnamed : (named config).enums = [] := by cases config <;> rfl
  rw [ofCompiled, foldl_selectFile, hnamed, List.nil_append, List.filter_eq_self]
  intro id hid
  refine (SymbolTable.isSome_enum?_ofFiles compiled.files id).2 ?_
  obtain ⟨d, hd, rfl⟩ := List.mem_map.1 hid
  obtain ⟨file, hfile, hd⟩ := List.mem_flatMap.1 hd
  exact List.mem_map_of_mem
    (List.mem_flatMap.2 ⟨file, hsub.subset hfile, file.mem_declaredEnums_of_top hd⟩)

/-- All services of the files to generate from are selected. -/
theorem services_ofCompiled :
    (ofCompiled config compiled).services
      = (compiled.targets.flatMap FileDescriptor.declaredServices).map Declaration.id := by
  have hnamed : (named config).services = [] := by cases config <;> rfl
  rw [ofCompiled, foldl_selectFile, hnamed, List.nil_append]

end Api

end Compiled

end ClientGen
