import ClientGen.Proofs.Placing
import ClientGen.Proofs.Selection
import ClientGen.Proofs.TypeNames
import Mathlib.Data.List.Perm.Subperm

/-!
# Identifiers tell how descriptors are nested

Descriptors are linked by their nesting.  The identifiers tell the same links where names have no
dots and no package is called like a message, so an API that is built anew from its elements alone
does not change.

* `NestedByName` — the identifiers tell how some elements are nested in messages; `filter_nested`
  and `filter_tops` find the nested ones and the others, in their order.
* `KeepsOrder` — lists of all messages and enums in which siblings stand in their order, as they do
  when a message comes before all that is nested in it (`keepsOrder_declared`).
* `Api.rebuilt_ofCompiled` — an API built from the elements of another one, all links erased, is the
  same again.
-/

namespace ClientGen

open Identifier (parentName)

/-! ## Parents of identifiers -/

theorem Identifier.parentName_ofPackage_child {package name : String} (h : '.' ∉ name.toList) :
    parentName (child (ofPackage package) name)
      = if package = "" then root else ofPackage package := by
  by_cases hpackage : package = ""
  · subst hpackage
    have hlist : (child (ofPackage "") name).toList = [] ++ '.' :: name.toList := by
      simp [child, ofPackage, String.toList_append]
    rw [parentName, hlist, beforeLastDot_append h]
    rfl
  · have hne : ofPackage package ≠ "" := by
      simp [ofPackage, hpackage, String.append_eq_empty_iff]
    rw [parentName_child hne h, if_neg hpackage]

/-- The root is not the identifier of anything that has a name. -/
theorem Declaration.id_ne_root {α : Type} [Named α] {d : Declaration α} (h : nameOf d.item ≠ "") :
    d.id ≠ Identifier.root := by
  intro hroot
  have hlength := congrArg String.length hroot
  have hdot : ".".length = 1 := rfl
  have hname : (nameOf d.item).length ≠ 0 := by simpa using h
  rw [id, Identifier.child, String.length_append, String.length_append, Identifier.root] at hlength
  omega

section Names

variable {files : List FileDescriptor}

/-- No message is called like the package of a file. -/
def PackagesApart (files : List FileDescriptor) : Prop :=
  ∀ d ∈ files.flatMap FileDescriptor.declaredMessages, ∀ file ∈ files,
    d.id ≠ Identifier.ofPackage (textOf file.package)

/-- What stands at the top level of a file has no message as its parent. -/
theorem parentName_notMem_of_top (hnames : SimpleNames files) (hpackages : PackagesApart files)
    {α : Type} [Named α] {file : FileDescriptor} (hfile : file ∈ files) {number : Int}
    {items : List α} {e : Declaration α} (he : e ∈ file.place.declare number items)
    (hdot : '.' ∉ (nameOf e.item).toList) :
    parentName e.id ∉ (files.flatMap FileDescriptor.declaredMessages).map Declaration.id := by
  intro hmem
  obtain ⟨d, hd, hid⟩ := List.mem_map.1 hmem
  have hscope : file.place.scope = Identifier.ofPackage (textOf file.package) := rfl
  rw [Declaration.id_of_mem_declare he, hscope, Identifier.parentName_ofPackage_child hdot] at hid
  split at hid
  · exact Declaration.id_ne_root (hnames.messages d hd).1 hid
  · exact hpackages d hd file hfile hid

/-- What is declared in a message has that message as its parent. -/
theorem parentName_of_nested {α : Type} [Named α] {d : Declaration MessageDescriptor} {number : Int}
    {items : List α} {e : Declaration α} (he : e ∈ d.inside.declare number items)
    (hdot : '.' ∉ (nameOf e.item).toList) : parentName e.id = d.id := by
  rw [Declaration.id_of_mem_declare he, Declaration.scope_inside]
  exact Identifier.parentName_child (Identifier.child_ne_empty _ _) hdot

end Names

/-! ## Nesting that identifiers tell -/

/-- The elements `ds` are `tops` and those that are nested in one of the messages, all of which
stand in their order, and `parentName` tells which message that is. -/
structure NestedByName {α : Type} [Named α] (messages : List (Declaration MessageDescriptor))
    (tops ds : List (Declaration α))
    (nested : Declaration MessageDescriptor → List (Declaration α)) : Prop where
  nodup : (ds.map Declaration.id).Nodup
  tops_sublist : tops.Sublist ds
  nested_sublist : ∀ d ∈ messages, (nested d).Sublist ds
  cases : ∀ e ∈ ds, e ∈ tops ∨ ∃ d ∈ messages, e ∈ nested d
  of_tops : ∀ e ∈ tops, e.parent = none ∧ parentName e.id ∉ messages.map Declaration.id
  of_nested : ∀ d ∈ messages, ∀ e ∈ nested d, e.parent = some d.id ∧ parentName e.id = d.id

/-- Picking the members of a sublist out of a list gives the sublist. -/
theorem filter_eq_of_sublist {α : Type} {l l' : List α} {p : α → Bool} (hsub : l'.Sublist l)
    (hnd : l.Nodup) (h : ∀ a ∈ l, p a = true ↔ a ∈ l') : l.filter p = l' := by
  have hkept : l'.filter p = l' :=
    List.filter_eq_self.2 fun a ha => (h a (hsub.subset ha)).2 ha
  have hle : l'.Sublist (l.filter p) := hkept ▸ hsub.filter p
  have hback : l.filter p ⊆ l' := by
    intro a ha
    obtain ⟨hmem, hp⟩ := List.mem_filter.1 ha
    exact (h a hmem).1 hp
  exact (hle.eq_of_length_le ((hnd.filter p).subperm hback).length_le).symm

namespace NestedByName

variable {α : Type} [Named α] {messages : List (Declaration MessageDescriptor)}
  {tops ds : List (Declaration α)} {nested : Declaration MessageDescriptor → List (Declaration α)}

/-- The elements below a message are found by name, in their order. -/
theorem filter_nested (h : NestedByName messages tops ds nested)
    (hids : (messages.map Declaration.id).Nodup) {d : Declaration MessageDescriptor}
    (hd : d ∈ messages) :
    (ds.map Declaration.id).filter (parentName · = d.id) = (nested d).map Declaration.id := by
  rw [List.filter_map]
  refine congrArg _ (filter_eq_of_sublist (h.nested_sublist d hd) h.nodup.of_map fun e he => ?_)
  rw [Function.comp_apply, decide_eq_true_iff]
  constructor
  · intro hparent
    rcases h.cases e he with htop | ⟨c, hc, hmem⟩
    · exact absurd (hparent ▸ List.mem_map_of_mem hd) (h.of_tops e htop).2
    · -- the message around the element is this one, as identifiers are distinct
      have hid : c.id = d.id := (h.of_nested c hc e hmem).2.symm.trans hparent
      exact List.inj_on_of_nodup_map hids hc hd hid ▸ hmem
  · exact fun hmem => (h.of_nested d hd e hmem).2

/-- The elements below no message are those at the top level. -/
theorem filter_tops (h : NestedByName messages tops ds nested) :
    (ds.map Declaration.id).filter (fun id => parentName id ∉ messages.map Declaration.id)
      = tops.map Declaration.id := by
  rw [List.filter_map]
  refine congrArg _ (filter_eq_of_sublist h.tops_sublist h.nodup.of_map fun e he => ?_)
  rw [Function.comp_apply, decide_eq_true_iff]
  constructor
  · intro hparent
    rcases h.cases e he with htop | ⟨c, hc, hmem⟩
    · exact htop
    · exact absurd ((h.of_nested c hc e hmem).2 ▸ List.mem_map_of_mem hc) hparent
  · exact fun htop => (h.of_tops e htop).2

/-- The parent of an element is the message that its identifier names, if there is one. -/
theorem parent_eq (h : NestedByName messages tops ds nested) {e : Declaration α} (he : e ∈ ds) :
    e.parent = if parentName e.id ∈ messages.map Declaration.id then some (parentName e.id)
      else none := by
  rcases h.cases e he with htop | ⟨d, hd, hmem⟩
  · obtain ⟨hparent, hnot⟩ := h.of_tops e htop
    rw [hparent, if_neg hnot]
  · obtain ⟨hparent, hname⟩ := h.of_nested d hd e hmem
    rw [hparent, hname, if_pos (List.mem_map_of_mem hd)]

end NestedByName

/-! ## Orders of all elements -/

/-- Lists of all messages and all enums of some files.  Those at the top level stand in their order,
and so do those directly in the same message. -/
structure KeepsOrder (files : List FileDescriptor) (ms : List (Declaration MessageDescriptor))
    (es : List (Declaration EnumDescriptor)) : Prop where
  messages : ms.Perm (files.flatMap FileDescriptor.declaredMessages)
  enums : es.Perm (files.flatMap FileDescriptor.declaredEnums)
  topMessages : (files.flatMap FileDescriptor.topMessages).Sublist ms
  topEnums : (files.flatMap FileDescriptor.topEnums).Sublist es
  children : ∀ d ∈ files.flatMap FileDescriptor.declaredMessages, d.children.Sublist ms
  childEnums : ∀ d ∈ files.flatMap FileDescriptor.declaredMessages, d.enums.Sublist es

/-- The order of the descriptors, each message before everything nested in it, is such an order. -/
theorem keepsOrder_declared (files : List FileDescriptor) :
    KeepsOrder files (files.flatMap FileDescriptor.declaredMessages)
      (files.flatMap FileDescriptor.declaredEnums) where
  messages := List.Perm.refl _
  enums := List.Perm.refl _
  topMessages := by
    induction files with
    | nil => exact .slnil
    | cons file files ih =>
        rw [List.flatMap_cons, List.flatMap_cons]
        exact (sublist_flatMap_self fun d _ => d.singleton_sublist_all).append ih
  topEnums := by
    induction files with
    | nil => exact .slnil
    | cons file files ih =>
        rw [List.flatMap_cons, List.flatMap_cons]
        exact (List.sublist_append_left file.topEnums _).append ih
  children d hd := by
    obtain ⟨file, hfile, hd⟩ := List.mem_flatMap.1 hd
    obtain ⟨top, htop, hd⟩ := List.mem_flatMap.1 hd
    calc d.children
      _ |>.Sublist d.all := d.children_sublist_all
      _ |>.Sublist top.all := Declaration.all_sublist_of_mem hd
      _ |>.Sublist file.declaredMessages := sublist_flatMap_of_mem Declaration.all htop
      _ |>.Sublist (files.flatMap FileDescriptor.declaredMessages) :=
          sublist_flatMap_of_mem FileDescriptor.declaredMessages hfile
  childEnums d hd := by
    obtain ⟨file, hfile, hd⟩ := List.mem_flatMap.1 hd
    calc d.enums
      _ |>.Sublist (file.declaredMessages.flatMap Declaration.enums) :=
          sublist_flatMap_of_mem Declaration.enums hd
      _ |>.Sublist file.declaredEnums := List.sublist_append_right ..
      _ |>.Sublist (files.flatMap FileDescriptor.declaredEnums) :=
          sublist_flatMap_of_mem FileDescriptor.declaredEnums hfile

section Orders

variable {files : List FileDescriptor} {ms : List (Declaration MessageDescriptor)}
  {es : List (Declaration EnumDescriptor)}

/-- The identifiers tell how the messages are nested. -/
theorem KeepsOrder.nestedMessages (h : KeepsOrder files ms es) (hids : DistinctIds files)
    (hnames : SimpleNames files) (hpackages : PackagesApart files) :
    NestedByName (files.flatMap FileDescriptor.declaredMessages)
      (files.flatMap FileDescriptor.topMessages) ms Declaration.children where
  nodup := (h.messages.map _).nodup_iff.2 hids.messages
  tops_sublist := h.topMessages
  nested_sublist := h.children
  cases e he := FileDescriptor.message_cases (h.messages.mem_iff.1 he)
  of_tops e he := by
    have hdot := (hnames.messages e (h.messages.mem_iff.1 (h.topMessages.subset he))).2
    obtain ⟨file, hfile, he⟩ := List.mem_flatMap.1 he
    exact ⟨Declaration.parent_of_mem_declare he,
      parentName_notMem_of_top hnames hpackages hfile he hdot⟩
  of_nested d hd e he := by
    have hdot := (hnames.messages e (FileDescriptor.children_declared hd he)).2
    exact ⟨(Declaration.parent_of_mem_declare he).trans d.parent_inside,
      parentName_of_nested he hdot⟩

/-- The identifiers tell in which messages the enums are. -/
theorem KeepsOrder.nestedEnums (h : KeepsOrder files ms es) (hids : DistinctIds files)
    (hnames : SimpleNames files) (hpackages : PackagesApart files) :
    NestedByName (files.flatMap FileDescriptor.declaredMessages)
      (files.flatMap FileDescriptor.topEnums) es Declaration.enums where
  nodup := (h.enums.map _).nodup_iff.2 hids.enums
  tops_sublist := h.topEnums
  nested_sublist := h.childEnums
  cases e he := FileDescriptor.enum_cases (h.enums.mem_iff.1 he)
  of_tops e he := by
    have hdot := (hnames.enums e (h.enums.mem_iff.1 (h.topEnums.subset he))).2
    obtain ⟨file, hfile, he⟩ := List.mem_flatMap.1 he
    exact ⟨Declaration.parent_of_mem_declare he,
      parentName_notMem_of_top hnames hpackages hfile he hdot⟩
  of_nested d hd e he := by
    have hdot := (hnames.enums e (FileDescriptor.enums_declared hd he)).2
    exact ⟨(Declaration.parent_of_mem_declare he).trans d.parent_inside,
      parentName_of_nested he hdot⟩

end Orders

/-! ## The API of compiled files -/

namespace Api

variable {config : Option ServiceConfig} {compiled : CompiledFiles}
  {ms : List (Declaration MessageDescriptor)} {es : List (Declaration EnumDescriptor)}

theorem hasParent_ofCompiled {id : String} : (ofCompiled config compiled).HasParent id
    ↔ parentName id ∈ (compiled.files.flatMap FileDescriptor.declaredMessages).map Declaration.id :=
  isSome_message?_ofCompiled (parentName id)

variable (config) in
/-- The links of the API of compiled files are those that the identifiers tell. -/
theorem linkedByName_ofCompiled (hall : compiled.targets = compiled.files)
    (hids : DistinctIds compiled.files) (hnames : SimpleNames compiled.files)
    (hpackages : PackagesApart compiled.files) (horder : KeepsOrder compiled.files ms es) :
    (ofCompiled config compiled).LinkedByName (ms.map Declaration.id) (es.map Declaration.id)
      ((compiled.files.flatMap FileDescriptor.declaredServices).map Declaration.id) := by
  have hms := horder.nestedMessages hids hnames hpackages
  have hes := horder.nestedEnums hids hnames hpackages
  have hsub : compiled.targets.Sublist compiled.files := by rw [hall]
  have hservices : (ofCompiled config compiled).services
      = (compiled.files.flatMap FileDescriptor.declaredServices).map Declaration.id := by
    rw [services_ofCompiled, hall]
  refine ⟨hms.nodup, hes.nodup, ?isSome_message?, ?isSome_enum?, ?isSome_service?, ?message, ?enum,
    ?messages, ?enums, hservices⟩
  case isSome_message? =>
    intro id
    rw [isSome_message?_ofCompiled, (horder.messages.map Declaration.id).mem_iff]
  case isSome_enum? =>
    intro id
    rw [isSome_enum?_ofCompiled, (horder.enums.map Declaration.id).mem_iff]
  case isSome_service? =>
    intro id
    rw [isSome_service?_ofCompiled (hids.sublist hsub).services, hservices]
  case message =>
    intro id m hm
    obtain ⟨d, hd, rfl, hrep⟩ := exists_represents_message hids hm
    refine ⟨?_, ?_, ?_⟩
    · rw [hrep.messages, hms.filter_nested hids.messages hd]
    · rw [hrep.enums, hes.filter_nested hids.messages hd]
    · simp only [hasParent_ofCompiled]
      rw [hrep.parent, hms.parent_eq (horder.messages.mem_iff.2 hd)]
  case enum =>
    intro id e he
    obtain ⟨d, hd, rfl, hrep⟩ := exists_represents_enum hids he
    simp only [hasParent_ofCompiled]
    rw [hrep.parent, hes.parent_eq (horder.enums.mem_iff.2 hd)]
  case messages =>
    simp only [hasParent_ofCompiled]
    rw [messages_ofCompiled hsub, hall, ← hms.filter_tops]
  case enums =>
    simp only [hasParent_ofCompiled]
    rw [enums_ofCompiled hsub, hall, ← hes.filter_tops]

/-- **The two ways to build an API agree.**  The elements of an API of files that are all generated,
listed in an order of the descriptors and without their links, make the same API again: the same
elements are selected, and the symbol table is the same with all links and their order. -/
theorem rebuilt_ofCompiled (config : Option ServiceConfig)
    (hall : compiled.targets = compiled.files) (hids : DistinctIds compiled.files)
    (hnames : SimpleNames compiled.files) (hpackages : PackagesApart compiled.files)
    (horder : KeepsOrder compiled.files ms es) :
    let api := ofCompiled config compiled
    let again := api.rebuilt (ms.map Declaration.id) (es.map Declaration.id)
      ((compiled.files.flatMap FileDescriptor.declaredServices).map Declaration.id)
    again.messages = api.messages ∧ again.enums = api.enums ∧ again.services = api.services ∧
      again.symbols = api.symbols :=
  (linkedByName_ofCompiled config hall hids hnames hpackages horder).rebuilt_eq
    (linked_ofCompiled config compiled)

end Api

/-! ### An example -/

/-- The shelves with all files that they import. -/
def shelfFiles : CompiledFiles where
  targets := shelfSet.files
  files := shelfSet.files

theorem shelfFiles_rebuilt :
    shelfFiles.targets = shelfFiles.files ∧ DistinctIds shelfFiles.files ∧
      SimpleNames shelfFiles.files ∧ PackagesApart shelfFiles.files ∧
      KeepsOrder shelfFiles.files (shelfFiles.files.flatMap FileDescriptor.declaredMessages)
        (shelfFiles.files.flatMap FileDescriptor.declaredEnums) ∧
      ((Api.ofCompiled none shelfFiles).rebuilt
        ((shelfFiles.files.flatMap FileDescriptor.declaredMessages).map Declaration.id)
        ((shelfFiles.files.flatMap FileDescriptor.declaredEnums).map Declaration.id)
        ((shelfFiles.files.flatMap FileDescriptor.declaredServices).map Declaration.id)).symbols
          = (Api.ofCompiled none shelfFiles).symbols := by
  have hids : DistinctIds shelfFiles.files := ⟨by decide, by decide, by decide⟩
  have hnames : SimpleNames shelfFiles.files := ⟨by decide, by decide⟩
  have hpackages : PackagesApart shelfFiles.files := by
    unfold PackagesApart
    decide
  have horder := keepsOrder_declared shelfFiles.files
  obtain ⟨-, -, -, hsymbols⟩ :=
    @Api.rebuilt_ofCompiled shelfFiles _ _ none rfl hids hnames hpackages horder
  exact ⟨rfl, hids, hnames, hpackages, horder, hsymbols⟩

end ClientGen
