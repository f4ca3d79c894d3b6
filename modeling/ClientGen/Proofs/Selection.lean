import ClientGen.Proofs.Links
import Mathlib.Data.List.Infix

/-!
# Which files an API is generated from

The compiler describes all files that it reads and names each by its path below some import
directory.  A description is that of an input file when the components of its name are the last ones
of the path of an input, and what stands at the top level of such a file is generated.  All other
files are there to be looked up.

* `Path.components_append_slash`, `components_of_noSlash` — the components of a path, slash by
  slash.
* `DescriptorSet.inputFiles` — the descriptions of the input files.
* `Service.Offers` — the service has the methods of its declaration that have a usable binding.
* `Api.selects_ofSet` — what the API of a descriptor set lists, and what its table has.
-/

namespace ClientGen

/-! ## Pieces between separators -/

/-- A separator opens a new piece, anything else goes to the first one. -/
theorem splitOn_cons {α : Type} [DecidableEq α] (separator a : α) (l : List α) :
    (a :: l).splitOn separator
      = if a = separator then [] :: l.splitOn separator
        else (l.splitOn separator).modifyHead (a :: ·) := by
  rw [List.splitOn, List.splitOnP_cons_eq_if_modifyHead]
  simp only [beq_iff_eq]
  rfl

/-! ## Components of paths -/

namespace Path

theorem parts_append_slash (before after : String) :
    parts (before ++ "/" ++ after) = parts before ++ parts after := by
  have hlist : (before ++ "/" ++ after).toList = before.toList ++ '/' :: after.toList := by
    rw [String.toList_append, String.toList_append, List.append_assoc]
    rfl
  have hsplit : (before ++ "/" ++ after).toList.splitOn '/'
      = before.toList.splitOn '/' ++ after.toList.splitOn '/' := by
    rw [hlist]
    exact List.splitOnP_append_cons before.toList after.toList (beq_self_eq_true '/')
  rw [parts, hsplit, List.filter_append, List.map_append]
  rfl

/-- A text that begins with something else than a slash has a part. -/
theorem parts_ne_nil {text : String} (h : text ≠ "") (hrel : isAbsolute text = false) :
    parts text ≠ [] := by
  intro hparts
  rw [parts, List.map_eq_nil_iff] at hparts
  cases hlist : text.toList with
  | nil => exact h (String.toList_eq_nil_iff.1 hlist)
  | cons c cs =>
      have hc : c ≠ '/' := by
        rintro rfl
        simp [isAbsolute, hlist] at hrel
      obtain ⟨part, rest, hrest⟩ := List.exists_cons_of_ne_nil (List.splitOn_ne_nil '/' cs)
      rw [hlist, splitOn_cons, if_neg hc, hrest, List.modifyHead_cons,
        List.filter_cons_of_pos (by simp)] at hparts
      exact List.cons_ne_nil _ _ hparts

/-- **What follows a slash** adds its own components, and a dot is none of them.  So repeated
slashes and a slash at the end make no difference. -/
theorem components_append_slash {before : String} (h : before ≠ "") (after : String) :
    components (before ++ "/" ++ after)
      = components before ++ (parts after).filterMap componentOf := by
  have habsolute : isAbsolute (before ++ "/" ++ after) = isAbsolute before := by
    obtain ⟨c, cs, hlist⟩ := List.exists_cons_of_ne_nil (mt String.toList_eq_nil_iff.1 h)
    simp [isAbsolute, String.toList_append, hlist]
  simp only [components, habsolute, parts_append_slash, List.filterMap_append]
  cases hrel : isAbsolute before with
  | true => rfl
  | false =>
      obtain ⟨part, rest, hparts⟩ := List.exists_cons_of_ne_nil (parts_ne_nil h hrel)
      rw [hparts]
      by_cases hdot : part = "." <;> simp [hdot]

/-- A path that begins with a slash begins with the root. -/
theorem components_slash (after : String) :
    components ("/" ++ after) = .root :: (parts after).filterMap componentOf := by
  have hparts : parts ("/" ++ after) = parts after := parts_append_slash "" after
  have habsolute : isAbsolute ("/" ++ after) = true := by simp [isAbsolute, String.toList_append]
  rw [components, habsolute, if_pos rfl, hparts]

/-- A text without slashes is one component, if it is not empty. -/
theorem components_of_noSlash {text : String} (h : '/' ∉ text.toList) :
    components text =
      if text = "" then [] else if text = "." then [.current]
      else if text = ".." then [.parent] else [.name text] := by
  have hsplit : text.toList.splitOn '/' = [text.toList] := by
    have hone : ∀ l ∈ [text.toList], '/' ∉ l := by simpa using h
    simpa using List.splitOn_intercalate '/' hone (List.cons_ne_nil _ _)
  have hrel : isAbsolute text = false := by
    cases hlist : text.toList with
    | nil => simp [isAbsolute, hlist]
    | cons c cs =>
        rw [hlist] at h
        have hc : c ≠ '/' := fun hc => h (hc ▸ List.mem_cons_self ..)
        simpa [isAbsolute, hlist] using hc
  by_cases hempty : text = ""
  · subst hempty
    rfl
  · have hparts : parts text = [text] := by
      rw [parts, hsplit]
      simp [hempty]
    rw [components, hrel, hparts, if_neg hempty]
    by_cases hdot : text = "."
    · simp [hdot, componentOf]
    · by_cases hdots : text = ".." <;> simp [hdot, hdots, componentOf]

example : components "a//b/./c/" = [.name "a", .name "b", .name "c"] := by decide

example : components "./a/../b" = [.current, .name "a", .parent, .name "b"] := by decide

theorem endsWith_iff {path ending : String} :
    endsWith path ending = true ↔ components ending <:+ components path := by
  rw [endsWith, List.isPrefixOf_iff_prefix, List.reverse_prefix]

end Path

/-! ## Input files -/

/-- The description is that of an input file: it has a name, and the components of the name are the
last ones of the path of an input. -/
def FileDescriptor.IsInput (file : FileDescriptor) (inputs : List String) : Prop :=
  textOf file.name ≠ "" ∧
    ∃ input ∈ inputs, Path.components (textOf file.name) <:+ Path.components input

instance (file : FileDescriptor) (inputs : List String) : Decidable (file.IsInput inputs) :=
  inferInstanceAs (Decidable (_ ∧ _))

/-- The descriptions of the input files, in the order of the set. -/
def DescriptorSet.inputFiles (set : DescriptorSet) (inputs : List String) : List FileDescriptor :=
  set.files.filter fun file => file.IsInput inputs

theorem FileDescriptor.isTargetOf_iff {file : FileDescriptor} {inputs : List String} :
    file.isTargetOf inputs = true ↔ file.IsInput inputs := by
  rw [isTargetOf, IsInput, Bool.and_eq_true, List.any_eq_true]
  refine and_congr ?_ (exists_congr fun input => and_congr_right fun _ => Path.endsWith_iff)
  rw [Bool.not_eq_true', String.isEmpty_eq_false_iff]

theorem CompiledFiles.targets_ofSet (inputs : List String) (set : DescriptorSet) :
    (ofSet inputs set).targets = set.inputFiles inputs := by
  refine List.filter_congr fun file _ => ?_
  rw [Bool.eq_iff_iff, FileDescriptor.isTargetOf_iff, decide_eq_true_iff]

/-! ## Methods with a binding -/

/-- The pattern of the HTTP rule of a method. -/
def MethodDescriptor.pattern? (m : MethodDescriptor) : Option HttpPattern :=
  (m.options.bind (·.http)).bind (·.pattern)

/-- The method has a pattern, and the path template of the pattern can be read. -/
def MethodDescriptor.IsBound (m : MethodDescriptor) : Prop :=
  ∃ pattern ∈ m.pattern?, (PathTemplate.parse pattern.parts.2).isSome

instance (m : MethodDescriptor) : Decidable m.IsBound :=
  inferInstanceAs (Decidable (∃ pattern ∈ m.pattern?, _))

/-- The method is the one of the descriptor, with the verb and the path of its pattern. -/
structure Method.Serves (method : Method) (m : MethodDescriptor) : Prop where
  name : method.name = nameOf m
  inputId : method.inputId = textOf m.inputType
  outputId : method.outputId = textOf m.outputType
  binding : ∃ pattern ∈ m.pattern?, method.binding.verb = pattern.parts.1 ∧
    PathTemplate.parse pattern.parts.2 = some method.binding.template

/-- The service is the one declared.  Its methods are those that have a binding, in their order. -/
structure Service.Offers (s : Service) (d : Declaration ServiceDescriptor) : Prop where
  id : s.id = d.id
  name : s.name = nameOf d.item
  package : s.package = d.package
  methods : List.Forall₂ Method.Serves s.methods (d.item.methods.filter fun m => m.IsBound)

theorem MethodDescriptor.toMethod?_of_isBound {m : MethodDescriptor} (h : m.IsBound)
    (t : SymbolTable) : ∃ method, m.toMethod? t = some method ∧ method.Serves m := by
  obtain ⟨pattern, hpattern, hparse⟩ := h
  obtain ⟨rule, hrule, hrulePattern⟩ := Option.bind_eq_some_iff.1 (Option.mem_def.1 hpattern)
  obtain ⟨template, htemplate⟩ := Option.isSome_iff_exists.1 hparse
  simp only [toMethod?, binding?, hrule, hrulePattern, htemplate, Option.map_some]
  exact ⟨_, rfl, rfl, rfl, rfl, pattern, hpattern, rfl, htemplate⟩

theorem MethodDescriptor.toMethod?_of_not_isBound {m : MethodDescriptor} (h : ¬m.IsBound)
    (t : SymbolTable) : m.toMethod? t = none := by
  rw [toMethod?, Option.map_eq_none_iff, binding?]
  cases hrule : m.options.bind (·.http) with
  | none => rfl
  | some rule =>
      cases hpattern : rule.pattern with
      | none => simp only [hpattern]
      | some pattern =>
          have hmem : pattern ∈ m.pattern? := by rw [pattern?, hrule]; exact hpattern
          cases htemplate : PathTemplate.parse pattern.parts.2 with
          | none => simp only [hpattern, htemplate]
          | some template => exact absurd ⟨pattern, hmem, by rw [htemplate, Option.isSome_some]⟩ h

/-- The methods that a service is made of are those with a binding. -/
theorem ServiceDescriptor.forall₂_serves (t : SymbolTable) (ms : List MethodDescriptor) :
    List.Forall₂ Method.Serves (ms.filterMap (·.toMethod? t)) (ms.filter fun m => m.IsBound) := by
  induction ms with
  | nil => exact .nil
  | cons m ms ih =>
      by_cases h : m.IsBound
      · obtain ⟨method, hmethod, hserves⟩ := m.toMethod?_of_isBound h t
        rw [List.filterMap_cons_some (f := fun m => MethodDescriptor.toMethod? m t) hmethod,
          List.filter_cons_of_pos (by simpa using h)]
        exact .cons hserves ih
      · rw [List.filterMap_cons_none (f := fun m => MethodDescriptor.toMethod? m t)
          (m.toMethod?_of_not_isBound h t),
          List.filter_cons_of_neg (by simpa using h)]
        exact ih

theorem ServiceDescriptor.offers_toService (t : SymbolTable) {d : Declaration ServiceDescriptor}
    (h : d.enclosing = []) : (d.item.toService t d.package).Offers d where
  id := id_toService t h
  name := rfl
  package := rfl
  methods := forall₂_serves t d.item.methods

/-- Documentation does not matter for what a service offers. -/
theorem Service.Offers.of_undocumented {s : Service} {d : Declaration ServiceDescriptor}
    (h : s.undocumented.Offers d) : s.Offers d where
  id := h.id
  name := h.name
  package := h.package
  methods := (List.forall₂_map_left_iff.1 h.methods).imp fun _ _ hserves =>
    ⟨hserves.name, hserves.inputId, hserves.outputId, hserves.binding⟩

/-! ## The API of a descriptor set -/

/-- The lists of the API hold the identifiers of what stands at the top level of the input files, in
the order of the set and once for each file, however many inputs it belongs to.  All of them are in
the table.  What the other files declare is in the table too, except for their services. -/
structure Api.Selects (api : Api) (inputs : List String) (set : DescriptorSet) : Prop where
  messages : api.messages
    = ((set.inputFiles inputs).flatMap FileDescriptor.topMessages).map Declaration.id
  enums : api.enums
    = ((set.inputFiles inputs).flatMap FileDescriptor.topEnums).map Declaration.id
  services : api.services
    = ((set.inputFiles inputs).flatMap FileDescriptor.declaredServices).map Declaration.id
  message : ∀ id ∈ api.messages, ∃ m, api.symbols.message? id = some m ∧ m.id = id
  enum : ∀ id ∈ api.enums, ∃ e, api.symbols.enum? id = some e ∧ e.id = id
  service : ∀ d ∈ (set.inputFiles inputs).flatMap FileDescriptor.declaredServices,
    ∃ s, api.symbols.service? d.id = some s ∧ s.Offers d
  isSome_message? : ∀ id, (api.symbols.message? id).isSome
    ↔ id ∈ (set.files.flatMap FileDescriptor.declaredMessages).map Declaration.id
  isSome_enum? : ∀ id, (api.symbols.enum? id).isSome
    ↔ id ∈ (set.files.flatMap FileDescriptor.declaredEnums).map Declaration.id
  isSome_service? : ∀ id, (api.symbols.service? id).isSome ↔ id ∈ api.services
  others : ∀ file ∈ set.files, ¬file.IsInput inputs → ∀ d ∈ file.declaredServices,
    d.id ∉ api.services

namespace Api

variable {config : Option ServiceConfig} {compiled : CompiledFiles}

/-- A message is selected only if it is in the table. -/
theorem isSome_message?_of_mem {id : String} (hid : id ∈ (ofCompiled config compiled).messages) :
    ((ofCompiled config compiled).symbols.message? id).isSome := by
  have hnamed : (named config).messages = [] := by cases config <;> rfl
  have hmem := hid
  rw [ofCompiled, foldl_selectFile, hnamed, List.nil_append] at hmem
  rw [isSome_message?_ofCompiled, ← SymbolTable.isSome_message?_ofFiles]
  exact (List.mem_filter.1 hmem).2

theorem isSome_enum?_of_mem {id : String} (hid : id ∈ (ofCompiled config compiled).enums) :
    ((ofCompiled config compiled).symbols.enum? id).isSome := by
  have hnamed : (named config).enums = [] := by cases config <;> rfl
  have hmem := hid
  rw [ofCompiled, foldl_selectFile, hnamed, List.nil_append] at hmem
  rw [isSome_enum?_ofCompiled, ← SymbolTable.isSome_enum?_ofFiles]
  exact (List.mem_filter.1 hmem).2

/-- The table has no services but those of the files to generate from. -/
theorem service?_ofCompiled_eq_none {id : String}
    (hid : id ∉ (ofCompiled config compiled).services) :
    (ofCompiled config compiled).symbols.service? id = none := by
  rw [services_ofCompiled] at hid
  rw [← Option.map_eq_none_iff, ← SymbolTable.service?_undocumented,
    undocumented_symbols_ofCompiled, SymbolTable.service?_foldl_enterService_of_notMem _ _
      enclosing_of_mem_flatMap hid, SymbolTable.service?_undocumented, SymbolTable.service?,
    (SymbolTable.registers_ofFiles compiled.files).services]
  rfl

variable (config) in
/-- Each service of a file to generate from is in the table, with its methods that have a binding. -/
theorem exists_offers
    (hnd : ((compiled.targets.flatMap FileDescriptor.declaredServices).map Declaration.id).Nodup)
    {d : Declaration ServiceDescriptor}
    (hd : d ∈ compiled.targets.flatMap FileDescriptor.declaredServices) :
    ∃ s, (ofCompiled config compiled).symbols.service? d.id = some s ∧ s.Offers d := by
  have hentry := SymbolTable.service?_foldl_enterService_of_mem
    (SymbolTable.ofFiles compiled.files).undocumented enclosing_of_mem_flatMap hnd hd
  rw [← @undocumented_symbols_ofCompiled config compiled, SymbolTable.service?_undocumented,
    Option.map_eq_some_iff] at hentry
  obtain ⟨s, hs, heq⟩ := hentry
  refine ⟨s, hs, Service.Offers.of_undocumented ?_⟩
  rw [heq]
  exact ServiceDescriptor.offers_toService _ (enclosing_of_mem_flatMap d hd)

theorem isSome_service?_ofCompiled
    (hnd : ((compiled.targets.flatMap FileDescriptor.declaredServices).map Declaration.id).Nodup)
    (id : String) : ((ofCompiled config compiled).symbols.service? id).isSome
      ↔ id ∈ (ofCompiled config compiled).services := by
  constructor
  · intro hfound
    by_contra hid
    rw [service?_ofCompiled_eq_none hid] at hfound
    cases hfound
  · intro hid
    rw [services_ofCompiled] at hid
    obtain ⟨d, hd, rfl⟩ := List.mem_map.1 hid
    obtain ⟨s, hs, -⟩ := exists_offers config hnd hd
    rw [hs, Option.isSome_some]

/-- **The input files are generated, and all files are looked up.**  Whatever the inputs and the
descriptor set are, the API of the set lists what the input files declare at their top level and
finds all of it, and the other files add to the table only. -/
theorem selects_ofSet (config : Option ServiceConfig) (inputs : List String) {set : DescriptorSet}
    (hnd : ((set.files.flatMap FileDescriptor.declaredServices).map Declaration.id).Nodup) :
    (ofCompiled config (CompiledFiles.ofSet inputs set)).Selects inputs set := by
  have htargets := CompiledFiles.targets_ofSet inputs set
  have hsub : (CompiledFiles.ofSet inputs set).targets.Sublist set.files := List.filter_sublist
  have hlinked := linked_ofCompiled config (CompiledFiles.ofSet inputs set)
  have hmessages := @messages_ofCompiled config _ hsub
  have henums := @enums_ofCompiled config _ hsub
  have hservices := @services_ofCompiled config (CompiledFiles.ofSet inputs set)
  rw [htargets] at hmessages henums hservices
  have hndTargets : (((set.inputFiles inputs).flatMap FileDescriptor.declaredServices).map
      Declaration.id).Nodup :=
    hnd.sublist ((List.filter_sublist.flatMap _).map _)
  rw [← htargets] at hndTargets
  refine ⟨hmessages, henums, hservices, ?message, ?enum, ?service, isSome_message?_ofCompiled,
    isSome_enum?_ofCompiled, isSome_service?_ofCompiled hndTargets, ?others⟩
  case message =>
    intro id hid
    obtain ⟨m, hm⟩ := Option.isSome_iff_exists.1 (isSome_message?_of_mem hid)
    exact ⟨m, hm, (hlinked.message id m hm).id⟩
  case enum =>
    intro id hid
    obtain ⟨e, he⟩ := Option.isSome_iff_exists.1 (isSome_enum?_of_mem hid)
    exact ⟨e, he, (hlinked.enum id e he).id⟩
  case service =>
    intro d hd
    rw [← htargets] at hd
    exact exists_offers config hndTargets hd
  case others =>
    intro file hfile hother d hd
    have hnot : file ∉ set.inputFiles inputs := fun hmem =>
      hother (of_decide_eq_true (List.mem_filter.1 hmem).2)
    rw [hservices]
    exact id_notMem_of_notMem hnd List.filter_sublist.subset hfile hnot hd

end Api

/-! ### An example -/

/-- A file of shelves, a file that it imports, and one whose name ends the text of a path but not
its components. -/
def shelfSet : DescriptorSet where
  files :=
    [{ name := some "google/api/label.proto"
       package := some "google.api"
       messageTypes := [{ name := some "Label" }]
       services := [{ name := some "Labels" }] },
      { name := some "library/v1/shelf.proto"
        package := some "library.v1"
        messageTypes :=
          [{ name := some "Shelf"
             nestedTypes := [{ name := some "Row" }, { name := some "Board" }]
             enumTypes := [{ name := some "Height" }] },
            { name := some "ShelfRequest" }]
        enumTypes := [{ name := some "Wood" }]
        services :=
          [{ name := some "Shelves"
             methods :=
               [{ name := some "Watch" },
                 { name := some "GetShelf"
                   options := some
                     { http := some { pattern := some (.get "/v1/{name=shelves/*}") } } },
                 { name := some "DropShelf"
                   options := some { http := some { pattern := some (.delete "shelves") } } }] }] },
      { name := some "elf.proto", messageTypes := [{ name := some "Elf" }] }]

/-- Two inputs that the same file belongs to. -/
def shelfInputs : List String := ["protos/library/v1/shelf.proto", "./library//v1/./shelf.proto"]

theorem shelfSet_selected :
    ((shelfSet.files.flatMap FileDescriptor.declaredServices).map Declaration.id).Nodup ∧
      (Api.ofCompiled none (CompiledFiles.ofSet shelfInputs shelfSet)).Selects shelfInputs
        shelfSet ∧
      (Api.ofCompiled none (CompiledFiles.ofSet shelfInputs shelfSet)).messages
        = [".library.v1.Shelf", ".library.v1.ShelfRequest"] := by
  have hnd : ((shelfSet.files.flatMap FileDescriptor.declaredServices).map
      Declaration.id).Nodup := by decide
  have hselects := Api.selects_ofSet none shelfInputs hnd
  refine ⟨hnd, hselects, ?_⟩
  rw [hselects.messages]
  decide

end ClientGen
