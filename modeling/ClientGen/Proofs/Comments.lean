import ClientGen.Proofs.Building
import ClientGen.Proofs.DocPaths

/-!
# Every comment ends up at its element

The documentation of an element of an API should be the last comment that stands before the element
in its file.  The comment is found by a path of indexes into the descriptors, the element by its
name in a symbol table that has lost groups and methods on the way.

* `documentation?_complete_of_not_owns` — a file leaves alone what it does not own.
* `documentation?_foldl_complete` — after all files a target holds the comment of the file that owns
  it.
* `DocumentedBy` — all elements of a file hold the comments at their paths.
* `Api.documentedBy_ofCompiled` — in the API of compiled files that is so.
-/

namespace ClientGen

/-! ## The comment at a path -/

namespace FileDescriptor

/-- The text of the last comment of the file at a path, empty if there is no comment. -/
def commentAt (file : FileDescriptor) (path : List Int) : String :=
  ((file.locations.filter fun l =>
    !(textOf l.leadingComments).isEmpty && decide (l.path.map Int32.toInt = path)).getLast?.map
      fun l => trimComment (textOf l.leadingComments)).getD ""

variable {file : FileDescriptor} {target : DocTarget}

/-- The comment for a target is the one at its path. -/
theorem commentFor_getD {p : List Int} (h : file.Declares p target)
    (hunique : ∀ p', file.Declares p' target → p' = p) :
    (file.commentFor target).getD "" = file.commentAt p := by
  have hcomments : ∀ l : Location, file.comments target l
      = (!(textOf l.leadingComments).isEmpty && decide (l.path.map Int32.toInt = p)) := by
    intro l
    have hpath : file.resolve l.path = some target ↔ l.path.map Int32.toInt = p := by
      rw [resolve_eq_some_iff]
      exact ⟨hunique _, fun hp => hp ▸ h⟩
    rw [comments, decide_eq_decide.2 hpath]
  rw [commentFor, commentAt, List.filter_congr fun l _ => hcomments l]

/-- A file has no comments for what it does not own. -/
theorem commentFor_of_not_owns (h : ¬ file.Owns target) : file.commentFor target = none := by
  have hcomments : ∀ l ∈ file.locations, ¬ file.comments target l = true := by
    intro l _ hl
    rw [comments, Bool.and_eq_true, decide_eq_true_eq, resolve_eq_some_iff] at hl
    exact h hl.2.owns
  rw [commentFor, List.filter_eq_nil_iff.2 hcomments]
  rfl

end FileDescriptor

/-! ## Slots, one file after the other -/

namespace SymbolTable

/-- Nothing is written for the target. -/
def Blank (t : SymbolTable) (target : DocTarget) : Prop :=
  ∀ text, t.documentation? target = some text → text = ""

variable {t : SymbolTable} {target : DocTarget}

theorem blank_of_undocumented_eq (h : t.undocumented = t) : t.Blank target := by
  intro text htext
  rw [← h, documentation?_undocumented] at htext
  obtain ⟨_, -, rfl⟩ := Option.map_eq_some_iff.1 htext
  rfl

theorem documentation?_enterService {d : Declaration ServiceDescriptor} (hd : d.enclosing = [])
    (h : ¬ target.Within [] [] [d.id]) :
    (t.enterService d).documentation? target = t.documentation? target := by
  cases target with
  | message _ | field _ _ | oneOf _ _ | enum _ | enumValue _ _ => rfl
  | service id | method id _ =>
      have hid : id ≠ d.id := fun hid => h (hid ▸ List.mem_singleton_self _)
      simp only [documentation?, service?_enterService _ _ hd, if_neg hid]

theorem Blank.enterService {d : Declaration ServiceDescriptor} (h : t.Blank target)
    (hd : d.enclosing = []) : (t.enterService d).Blank target := by
  by_cases hw : target.Within [] [] [d.id]
  · intro text htext
    have hnew : ((d.item.toService t d.package).documentation? target) = some text := by
      cases target with
      | message _ | field _ _ | oneOf _ _ | enum _ | enumValue _ _ => cases hw
      | service id | method id _ =>
          obtain rfl := List.mem_singleton.1 hw
          simpa [documentation?, service?_enterService _ _ hd] using htext
    rw [← ServiceDescriptor.undocumented_toService, Service.documentation?_undocumented] at hnew
    obtain ⟨_, -, rfl⟩ := Option.map_eq_some_iff.1 hnew
    rfl
  · intro text htext
    rw [documentation?_enterService hd hw] at htext
    exact h text htext

theorem Blank.foldl_enterService {ds : List (Declaration ServiceDescriptor)} (h : t.Blank target)
    (htop : ∀ d ∈ ds, d.enclosing = []) : (ds.foldl SymbolTable.enterService t).Blank target := by
  induction ds generalizing t with
  | nil => exact h
  | cons d ds ih =>
      exact ih (h.enterService (htop d (List.mem_cons_self ..)))
        fun e he => htop e (List.mem_cons_of_mem _ he)

theorem documentation?_foldl_enterService {ds : List (Declaration ServiceDescriptor)}
    (htop : ∀ d ∈ ds, d.enclosing = []) (h : ¬ target.Within [] [] (ds.map Declaration.id)) :
    (ds.foldl SymbolTable.enterService t).documentation? target = t.documentation? target := by
  induction ds generalizing t with
  | nil => rfl
  | cons d ds ih =>
      have hhead : ¬ target.Within [] [] [d.id] := fun hw =>
        h (hw.services_mono (List.cons_subset_cons _ (List.nil_subset _)))
      have htail : ¬ target.Within [] [] (ds.map Declaration.id) := fun hw =>
        h (hw.services_mono (List.subset_cons_self ..))
      rw [List.foldl_cons, ih (fun e he => htop e (List.mem_cons_of_mem _ he)) htail,
        documentation?_enterService (htop d (List.mem_cons_self ..)) hhead]

/-- A file leaves alone what it does not own. -/
theorem documentation?_complete_of_not_owns {file : FileDescriptor} (h : ¬ file.Owns target) :
    (t.complete file).documentation? target = t.documentation? target := by
  have hservices : ¬ target.Within [] [] (file.declaredServices.map Declaration.id) := fun hw =>
    h (hw.services_mono (List.Subset.refl _))
  rw [complete, documentation?_documentFile, FileDescriptor.commentFor_of_not_owns h,
    documentation?_foldl_enterService file.enclosing_of_mem_declaredServices hservices]
  exact Option.map_id'

/-- **A file writes the comment for each target that it owns.** -/
theorem documentation?_complete {file : FileDescriptor} (hblank : t.Blank target) {text : String}
    (h : (t.complete file).documentation? target = some text) :
    text = (file.commentFor target).getD "" := by
  rw [complete, documentation?_documentFile] at h
  obtain ⟨old, hold, rfl⟩ := Option.map_eq_some_iff.1 h
  rw [hblank.foldl_enterService file.enclosing_of_mem_declaredServices old hold]

theorem documentation?_foldl_complete_of_not_owns {files : List FileDescriptor}
    (h : ∀ file ∈ files, ¬ file.Owns target) :
    (files.foldl complete t).documentation? target = t.documentation? target := by
  induction files generalizing t with
  | nil => rfl
  | cons file files ih =>
      rw [List.foldl_cons, ih fun f hf => h f (List.mem_cons_of_mem _ hf),
        documentation?_complete_of_not_owns (h file (List.mem_cons_self ..))]

/-- After some files, of which no two own one target, each target holds the comment of the file that
owns it. -/
theorem documentation?_foldl_complete {files : List FileDescriptor}
    (hp : files.Pairwise fun f g => ∀ target, f.Owns target → ¬ g.Owns target)
    {file : FileDescriptor} (hfile : file ∈ files) (hown : file.Owns target)
    (hblank : t.Blank target) {text : String}
    (h : (files.foldl complete t).documentation? target = some text) :
    text = (file.commentFor target).getD "" := by
  induction files generalizing t with
  | nil => cases hfile
  | cons f files ih =>
      rw [List.pairwise_cons] at hp
      rw [List.foldl_cons] at h
      rcases List.mem_cons.1 hfile with rfl | hfile
      · rw [documentation?_foldl_complete_of_not_owns fun g hg => hp.1 g hg target hown] at h
        exact documentation?_complete hblank h
      · have hf : ¬ f.Owns target := fun hf => hp.1 file hfile target hf hown
        refine ih hp.2 hfile ?_ h
        intro old hold
        rw [documentation?_complete_of_not_owns hf] at hold
        exact hblank old hold

end SymbolTable

/-! ## Elements with the comments of their descriptors -/

section Parts

variable {α δ : Type} [Named δ]

/-- Each item is called like one of the descriptors, and its documentation is the comment for the
index of that descriptor. -/
def PartsDocumented (ds : List δ) (spell : String → String) (comment : Nat → String)
    (items : List α) (key documentation : α → String) : Prop :=
  ∀ a ∈ items, ∃ (i : Nat) (d : δ),
    ds[i]? = some d ∧ key a = spell (nameOf d) ∧ documentation a = comment i

theorem find?_of_nodup {items : List α} {key : α → String} (hnd : (items.map key).Nodup) {a : α}
    (ha : a ∈ items) : items.find? (fun b => decide (key b = key a)) = some a := by
  have hsome : (items.find? fun b => decide (key b = key a)).isSome :=
    List.find?_isSome.2 ⟨a, ha, by simp⟩
  obtain ⟨b, hb⟩ := Option.isSome_iff_exists.1 hsome
  have hkey : key b = key a := by simpa using List.find?_some hb
  rw [hb, List.inj_on_of_nodup_map hnd (List.mem_of_find?_eq_some hb) ha hkey]

/-- Items that are found under their own names are documented by what is written for the names. -/
theorem partsDocumented_of_slots {items : List α} {ds : List δ} {key documentation : α → String}
    {spell : String → String} {comment : Nat → String}
    (hsub : (items.map key).Sublist (ds.map fun d => spell (nameOf d)))
    (hspell : Function.Injective spell) (hnd : (ds.map nameOf).Nodup)
    (hslot : ∀ a ∈ items, items.find? (fun b => decide (key b = key a)) = some a →
      ∀ (i : Nat) (d : δ), ds[i]? = some d → key a = spell (nameOf d) →
        documentation a = comment i) :
    PartsDocumented ds spell comment items key documentation := by
  have hkeys : (items.map key).Nodup := by
    refine List.Nodup.sublist hsub ?_
    have h := hnd.map hspell
    rwa [List.map_map] at h
  intro a ha
  obtain ⟨d, hd, hname⟩ := List.mem_map.1 (hsub.subset (List.mem_map_of_mem ha))
  obtain ⟨i, hi⟩ := List.mem_iff_getElem?.1 hd
  exact ⟨i, d, hi, hname.symm, hslot a ha (find?_of_nodup hkeys ha) i d hi hname.symm⟩

end Parts

/-- The message and its parts hold the comments at their paths. -/
structure Message.DocumentedBy (comment : List Int → String) (d : Declaration MessageDescriptor)
    (m : Message) : Prop where
  own : m.documentation = comment d.path
  fields : PartsDocumented d.item.fields (Identifier.child d.id)
    (fun i => comment (d.path ++ [2, (i : Int)])) m.fields Field.id Field.documentation
  oneOfs : PartsDocumented d.item.oneofDecls (Identifier.child d.id)
    (fun i => comment (d.path ++ [8, (i : Int)])) m.oneOfs OneOf.id OneOf.documentation

/-- The enum and its values hold the comments at their paths. -/
structure Enum.DocumentedBy (comment : List Int → String) (d : Declaration EnumDescriptor)
    (e : Enum) : Prop where
  own : e.documentation = comment d.path
  values : PartsDocumented d.item.values (fun name => name)
    (fun i => comment (d.path ++ [2, (i : Int)])) e.values EnumValue.name EnumValue.documentation

/-- The service and its methods hold the comments at their paths. -/
structure Service.DocumentedBy (comment : List Int → String) (d : Declaration ServiceDescriptor)
    (s : Service) : Prop where
  own : s.documentation = comment d.path
  methods : PartsDocumented d.item.methods (fun name => name)
    (fun i => comment (d.path ++ [2, (i : Int)])) s.methods Method.name Method.documentation

/-- What the table has of a file holds the comments at its paths.  The messages and the enums are
all there. -/
structure SymbolTable.DocumentedBy (t : SymbolTable) (file : FileDescriptor)
    (comment : List Int → String) : Prop where
  message : ∀ d ∈ file.declaredMessages,
    ∃ m, t.message? d.id = some m ∧ m.DocumentedBy comment d
  enum : ∀ d ∈ file.declaredEnums, ∃ e, t.enum? d.id = some e ∧ e.DocumentedBy comment d
  service : ∀ d ∈ file.declaredServices,
    ∀ s, t.service? d.id = some s → s.DocumentedBy comment d

/-! ## From slots to elements -/

section Elements

variable {files : List FileDescriptor} {file : FileDescriptor} {t : SymbolTable}
  {comment : List Int → String}

/-- The documentation of what the file declares is the comment at the path. -/
def SymbolTable.SlotsHold (t : SymbolTable) (file : FileDescriptor) (comment : List Int → String) :
    Prop :=
  ∀ p target text, file.Declares p target → t.documentation? target = some text → text = comment p

theorem Message.documentedBy_of_slots (hmembers : DistinctMembers files) (hfile : file ∈ files)
    (hslots : t.SlotsHold file comment) {d : Declaration MessageDescriptor}
    (hd : d ∈ file.declaredMessages) {m : Message} (hm : t.message? d.id = some m)
    {u : SymbolTable}
    (hmade : m.undocumented = Message.ofDescriptor u d.item d.id d.package d.parent) :
    m.DocumentedBy comment d where
  own := by
    refine hslots _ _ _ (.message hd) ?_
    rw [SymbolTable.documentation?, hm]
    rfl
  fields := by
    have hids : m.fields.map Field.id
        = d.item.fields.map fun f => Identifier.child d.id (nameOf f) := by
      have h := congrArg (fun m => m.fields.map Field.id) hmade
      simpa [Message.undocumented, Message.ofDescriptor, Field.undocumented, Function.comp_def,
        Field.id_ofDescriptor] using h
    refine partsDocumented_of_slots (hids ▸ List.Sublist.refl _)
      (fun _ _ => Identifier.child_injective)
      (hmembers.fields d (List.mem_flatMap.2 ⟨file, hfile, hd⟩)) ?_
    intro a ha hfind i f hf hid
    refine hslots _ _ _ (.field hd hf) ?_
    rw [← hid, SymbolTable.documentation?, hm]
    exact congrArg (Option.map Field.documentation) hfind
  oneOfs := by
    have hids : m.oneOfs.map OneOf.id = (OneOf.ofMessage d.id d.item).map OneOf.id := by
      have h := congrArg (fun m => m.oneOfs.map OneOf.id) hmade
      simpa [Message.undocumented, Message.ofDescriptor, OneOf.undocumented, Function.comp_def]
        using h
    refine partsDocumented_of_slots (hids ▸ OneOf.map_id_ofMessage_sublist ..)
      (fun _ _ => Identifier.child_injective)
      (hmembers.oneOfs d (List.mem_flatMap.2 ⟨file, hfile, hd⟩)) ?_
    intro a ha hfind i o ho hid
    refine hslots _ _ _ (.oneOf hd ho) ?_
    rw [← hid, SymbolTable.documentation?, hm]
    exact congrArg (Option.map OneOf.documentation) hfind

theorem Enum.documentedBy_of_slots (hmembers : DistinctMembers files) (hfile : file ∈ files)
    (hslots : t.SlotsHold file comment) {d : Declaration EnumDescriptor}
    (hd : d ∈ file.declaredEnums) {e : Enum} (he : t.enum? d.id = some e)
    (hmade : e.undocumented = Enum.ofDescriptor d.item d.id d.package d.parent) :
    e.DocumentedBy comment d where
  own := by
    refine hslots _ _ _ (.enum hd) ?_
    rw [SymbolTable.documentation?, he]
    rfl
  values := by
    have hnames : e.values.map EnumValue.name = d.item.values.map nameOf := by
      have h := congrArg (fun e => e.values.map EnumValue.name) hmade
      simp only [Enum.undocumented, Enum.ofDescriptor, EnumValue.ofEnum, List.map_map] at h
      exact h
    refine partsDocumented_of_slots (hnames ▸ List.Sublist.refl _) Function.injective_id
      (hmembers.values d (List.mem_flatMap.2 ⟨file, hfile, hd⟩)) ?_
    intro a ha hfind i v hv hname
    refine hslots _ _ _ (.enumValue hd hv) ?_
    rw [← hname, SymbolTable.documentation?, he]
    exact congrArg (Option.map EnumValue.documentation) hfind

theorem Service.documentedBy_of_slots (hmembers : DistinctMembers files) (hfile : file ∈ files)
    (hslots : t.SlotsHold file comment) {d : Declaration ServiceDescriptor}
    (hd : d ∈ file.declaredServices) {s : Service} (hs : t.service? d.id = some s)
    {u : SymbolTable} (hmade : s.undocumented = d.item.toService u d.package) :
    s.DocumentedBy comment d where
  own := by
    refine hslots _ _ _ (.service hd) ?_
    rw [SymbolTable.documentation?, hs]
    rfl
  methods := by
    have hnames : s.methods.map Method.name
        = (d.item.toService u d.package).methods.map Method.name := by
      have h := congrArg (fun s => s.methods.map Method.name) hmade
      simpa [Service.undocumented, Method.undocumented, Function.comp_def] using h
    refine partsDocumented_of_slots
      (hnames ▸ ServiceDescriptor.map_name_toService_sublist d.item u d.package)
      Function.injective_id (hmembers.methods d (List.mem_flatMap.2 ⟨file, hfile, hd⟩)) ?_
    intro a ha hfind i m hm hname
    refine hslots _ _ _ (.method hd hm) ?_
    rw [← hname, SymbolTable.documentation?, hs]
    exact congrArg (Option.map Method.documentation) hfind

end Elements

/-! ## The API of compiled files -/

namespace Api

variable {config : Option ServiceConfig} {compiled : CompiledFiles}

theorem documentedBy_of_slots (hsub : compiled.targets.Sublist compiled.files)
    (hids : DistinctIds compiled.files) (hmembers : DistinctMembers compiled.files)
    {file : FileDescriptor} (hfile : file ∈ compiled.files) {comment : List Int → String}
    (hslots : (ofCompiled config compiled).symbols.SlotsHold file comment) :
    (ofCompiled config compiled).symbols.DocumentedBy file comment where
  message d hd := by
    obtain ⟨u, -, -, hdm⟩ := SymbolTable.entered_ofFiles hids.messages d
      (List.mem_flatMap.2 ⟨file, hfile, hd⟩)
    rw [← message?_ofCompiled hids] at hdm
    obtain ⟨m, hm, hmade⟩ := Option.map_eq_some_iff.1 hdm
    exact ⟨m, hm, Message.documentedBy_of_slots hmembers hfile hslots hd hm hmade⟩
  enum d hd := by
    have hde := (SymbolTable.registers_ofFiles compiled.files).enum hids.enums d
      (List.mem_flatMap.2 ⟨file, hfile, hd⟩)
    rw [← enum?_ofCompiled hids] at hde
    obtain ⟨e, he, hmade⟩ := Option.map_eq_some_iff.1 hde
    exact ⟨e, he, Enum.documentedBy_of_slots hmembers hfile hslots hd he hmade⟩
  service d hd s hs := by
    obtain ⟨d', hd', hid, hmade⟩ := exists_of_service?_ofCompiled hids hsub hs
    have hmem := List.mem_flatMap.2 ⟨file, hfile, hd⟩
    obtain rfl := List.inj_on_of_nodup_map hids.services ((hsub.flatMap _).subset hd') hmem hid
    exact Service.documentedBy_of_slots hmembers hfile hslots hd hs hmade

/-- A slot of a file to generate from holds the comment of the file. -/
theorem slotsHold_of_mem (hsub : compiled.targets.Sublist compiled.files)
    (hids : DistinctIds compiled.files) (hmembers : DistinctMembers compiled.files)
    {file : FileDescriptor} (hfile : file ∈ compiled.targets) :
    (ofCompiled config compiled).symbols.SlotsHold file file.commentAt := by
  intro p target text hdecl htext
  rw [symbols_ofCompiled] at htext
  rw [SymbolTable.documentation?_foldl_complete (hids.sublist hsub).pairwise hfile hdecl.owns
    (SymbolTable.blank_of_undocumented_eq (SymbolTable.undocumented_ofFiles hids)) htext]
  exact FileDescriptor.commentFor_getD hdecl fun p' hp' =>
    FileDescriptor.Declares.path_unique hids hmembers (hsub.subset hfile) hp' hdecl

/-- A slot of any other file is empty. -/
theorem slotsHold_of_notMem (hsub : compiled.targets.Sublist compiled.files)
    (hids : DistinctIds compiled.files) {file : FileDescriptor} (hfile : file ∈ compiled.files)
    (hnot : file ∉ compiled.targets) :
    (ofCompiled config compiled).symbols.SlotsHold file fun _ => "" := by
  intro p target text hdecl htext
  have hown : ∀ f ∈ compiled.targets, ¬ f.Owns target :=
    hids.not_owns_of_notMem hsub.subset hfile hnot hdecl.owns
  rw [symbols_ofCompiled, SymbolTable.documentation?_foldl_complete_of_not_owns hown] at htext
  exact SymbolTable.blank_of_undocumented_eq (SymbolTable.undocumented_ofFiles hids) text htext

/-- The table of the API holds the last comment at the path of each element that it has of a file to
generate from, and no comment for anything of another file. -/
structure Documented (api : Api) (compiled : CompiledFiles) : Prop where
  target : ∀ file ∈ compiled.targets, api.symbols.DocumentedBy file file.commentAt
  service : ∀ file ∈ compiled.targets, ∀ d ∈ file.declaredServices,
    (api.symbols.service? d.id).isSome
  other : ∀ file ∈ compiled.files, file ∉ compiled.targets →
    api.symbols.DocumentedBy file fun _ => ""

end Api

/-- The path is that of an element of the file, and the table has the element. -/
def SymbolTable.Holds (t : SymbolTable) (file : FileDescriptor) (path : List Int) : Prop :=
  ∃ target, file.Declares path target ∧ (t.documentation? target).isSome

/-- A location that belongs to no element of the table does not change the table. -/
theorem SymbolTable.documentLocation_eq_self {t : SymbolTable} {file : FileDescriptor}
    {l : Location} (h : ¬ t.Holds file (l.path.map Int32.toInt)) :
    t.documentLocation file l = t := by
  simp only [documentLocation]
  split
  · rfl
  · split
    · rename_i target hpath
      refine document_eq_self _ ?_
      rw [← Option.not_isSome_iff_eq_none]
      exact fun hsome => h ⟨target, FileDescriptor.resolve_eq_some_iff.1 hpath, hsome⟩
    · rfl

/-- Attaching comments does not change what elements there are. -/
theorem SymbolTable.holds_foldl_documentLocation {t : SymbolTable} {file : FileDescriptor}
    (ls : List Location) {path : List Int} :
    (ls.foldl (documentLocation file) t).Holds file path ↔ t.Holds file path := by
  simp only [Holds, documentation?_foldl_documentLocation, Option.isSome_map]

/-- A location that belongs to no element of the table might as well be left out. -/
theorem SymbolTable.foldl_documentLocation_erase {t : SymbolTable} {file : FileDescriptor}
    {l : Location} (h : ¬ t.Holds file (l.path.map Int32.toInt)) (before after : List Location) :
    (before ++ l :: after).foldl (documentLocation file) t
      = (before ++ after).foldl (documentLocation file) t := by
  rw [← holds_foldl_documentLocation before] at h
  rw [List.foldl_append, List.foldl_cons, documentLocation_eq_self h, List.foldl_append]

/-- **Every comment ends up at its element and nowhere else.**  In the API of compiled files each
element of a file to generate from is documented by the last comment of that file at the path of its
descriptor, elements of other files are not documented, and a location with any other path, wherever
it stands among the locations of its file, changes nothing. -/
theorem Api.documented_ofCompiled {config : Option ServiceConfig} {compiled : CompiledFiles}
    (hsub : compiled.targets.Sublist compiled.files) (hids : DistinctIds compiled.files)
    (hmembers : DistinctMembers compiled.files) :
    (ofCompiled config compiled).Documented compiled ∧
      ∀ (t : SymbolTable) (file : FileDescriptor) (before after : List Location) (l : Location),
        ¬ t.Holds file (l.path.map Int32.toInt) →
        (before ++ l :: after).foldl (SymbolTable.documentLocation file) t
          = (before ++ after).foldl (SymbolTable.documentLocation file) t where
  left :=
    { target := fun file hfile =>
        documentedBy_of_slots hsub hids hmembers (hsub.subset hfile)
          (slotsHold_of_mem hsub hids hmembers hfile)
      service := by
        intro file hfile d hd
        have h := service?_ofCompiled_of_mem config hids hsub
          (List.mem_flatMap.2 ⟨file, hfile, hd⟩)
        rw [← Option.isSome_map, h, Option.isSome_some]
      other := fun file hfile hnot =>
        documentedBy_of_slots hsub hids hmembers hfile (slotsHold_of_notMem hsub hids hfile hnot) }
  right _ _ before after _ h := SymbolTable.foldl_documentLocation_erase h before after

/-! ### An example -/

/-- A guest book: a message with a real and an artificial group, a service with a method that has no
binding, an imported enum, and comments for most of them and for nothing. -/
def guestBook : CompiledFiles :=
  let entry : MessageDescriptor :=
    { name := some "Entry"
      fields :=
        [{ name := some "note", proto3Optional := some true, oneofIndex := some 0 },
          { name := some "mail", oneofIndex := some 1 }]
      oneofDecls := [{ name := some "_note" }, { name := some "contact" }]
      nestedTypes := [{ name := some "Stamp" }] }
  let service : ServiceDescriptor :=
    { name := some "Guests"
      methods :=
        [{ name := some "Watch" },
          { name := some "Sign", inputType := some ".guest.Entry"
            options := some { http := some { pattern := some (.post "/v1/entries") } } }] }
  let file : FileDescriptor :=
    { package := some "guest"
      messageTypes := [entry]
      services := [service]
      sourceInfo := some
        { locations :=
            [{ path := [4, 0], leadingComments := some " A line in the book.\n" },
              { path := [4, 0, 8, 1], leadingComments := some " How to answer." },
              { path := [4, 0, 3, 0], leadingComments := some " When." },
              { path := [4, 0, 3, 0], leadingComments := some " When it was." },
              { path := [6, 0, 2, 0], leadingComments := some " Not over HTTP." },
              { path := [6, 0, 2, 1], leadingComments := some " Adds an entry." },
              { path := [4, 7], leadingComments := some " Nowhere." }] } }
  let imported : FileDescriptor :=
    { enumTypes := [{ name := some "Mood", values := [{ name := some "FINE" }] }]
      sourceInfo := some
        { locations := [{ path := [5, 0], leadingComments := some " Not asked for." }] } }
  { targets := [file], files := [imported, file] }

theorem guestBook_documented :
    guestBook.targets.Sublist guestBook.files ∧ DistinctIds guestBook.files ∧
      DistinctMembers guestBook.files ∧
      ((Api.ofCompiled none guestBook).Documented guestBook ∧
      ∀ (t : SymbolTable) (file : FileDescriptor) (before after : List Location) (l : Location),
        ¬ t.Holds file (l.path.map Int32.toInt) →
        (before ++ l :: after).foldl (SymbolTable.documentLocation file) t
          = (before ++ after).foldl (SymbolTable.documentLocation file) t) :=
  have hsub : guestBook.targets.Sublist guestBook.files := List.sublist_cons_self ..
  have hids : DistinctIds guestBook.files := ⟨by decide, by decide, by decide⟩
  have hmembers : DistinctMembers guestBook.files :=
    ⟨by decide, by decide, by decide, by decide⟩
  ⟨hsub, hids, hmembers, Api.documented_ofCompiled hsub hids hmembers⟩

/-- The second group of the descriptor is the first one of the message. -/
example : (Api.ofCompiled none guestBook).symbols.documentation?
    (.oneOf ".guest.Entry" ".guest.Entry.contact") = some "How to answer." := by decide

end ClientGen
