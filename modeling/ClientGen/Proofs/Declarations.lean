import ClientGen.Api.Identifier
import ClientGen.Schema.Descriptor
import Mathlib.Data.List.Flatten
import Mathlib.Data.List.Nodup
import Mathlib.Data.List.Pairwise

/-!
# What a file declares, and where

Registration, documentation and generation each walk the descriptors of a file in a way of their
own.  This file lists once what there is to walk over: every message, enum and service of a file
with its place.

* `Position` — a package, the names of the enclosing messages, and the path that the compiler uses
  for the element.  `Position.scope` and `Declaration.id` spell the identifiers out;
  `Declaration.chain` has the names that an identifier is made of.
* `FileDescriptor.declaredMessages`, `declaredEnums`, `declaredServices` — the declarations of a
  file, a message before everything nested in it.
* `Declaration.all_eq` and `Declaration.induction` — the declarations below a message are those
  below its children, and what passes from the children to a message holds of every message.
* `DistinctIds` — no two messages, no two enums and no two services share an identifier.
-/

namespace ClientGen

/-! ## Identifiers -/

namespace Identifier

theorem child_injective {parent a b : String} (h : child parent a = child parent b) : a = b := by
  unfold child at h
  exact String.append_right_inj _ |>.1 h

theorem child_ne_empty (parent name : String) : child parent name ≠ "" := by
  intro h
  have hlen := congrArg String.length h
  simp [child, String.length_append] at hlen

theorem beforeLastDot_append {before after : List Char} (h : '.' ∉ after) :
    beforeLastDot (before ++ '.' :: after) = some before := by
  have hrev : (before ++ '.' :: after).reverse.dropWhile (· ≠ '.') = '.' :: before.reverse := by
    rw [List.reverse_append, List.reverse_cons, List.append_assoc,
      List.dropWhile_append_of_pos fun c hc => by
        simpa using fun he : c = '.' => h (he ▸ List.mem_reverse.1 hc)]
    rfl
  rw [beforeLastDot, hrev]
  simp

/-- A name without dots is what `parentName` takes off an identifier. -/
theorem parentName_child {parent name : String} (hp : parent ≠ "") (hn : '.' ∉ name.toList) :
    parentName (child parent name) = parent := by
  have hlist : (child parent name).toList = parent.toList ++ '.' :: name.toList := by
    simp [child, String.toList_append]
  rw [parentName, hlist, beforeLastDot_append hn]
  split
  · rename_i h
    cases h
  · rename_i h
    exact absurd (String.toList_eq_nil_iff.1 (Option.some.inj h)) hp
  · rename_i l _ h
    rw [← Option.some.inj h, String.ofList_toList]

end Identifier

/-! ## Names and places -/

/-- Descriptors of things that have a name. -/
class Named (α : Type) where
  /-- The name, empty if it is absent. -/
  nameOf : α → String

export Named (nameOf)

instance : Named MessageDescriptor := ⟨fun d => textOf d.name⟩
instance : Named FieldDescriptor := ⟨fun d => textOf d.name⟩
instance : Named OneofDescriptor := ⟨fun d => textOf d.name⟩
instance : Named EnumDescriptor := ⟨fun d => textOf d.name⟩
instance : Named EnumValueDescriptor := ⟨fun d => textOf d.name⟩
instance : Named ServiceDescriptor := ⟨fun d => textOf d.name⟩
instance : Named MethodDescriptor := ⟨fun d => textOf d.name⟩

/-- Where a descriptor stands in a file. -/
structure Position where
  package : String
  /-- The names of the enclosing messages, the outermost first. -/
  enclosing : List String := []
  /-- The path from the file: numbers of collections, each with an index into the collection. -/
  path : List Int := []

namespace Position

/-- What the identifiers of the elements at the place begin with: the package, then the enclosing
messages one by one. -/
def scope (p : Position) : String :=
  p.enclosing.foldl Identifier.child (Identifier.ofPackage p.package)

/-- The identifier of the enclosing message, if there is one. -/
def parent (p : Position) : Option String :=
  if p.enclosing.isEmpty then none else some p.scope

/-- The place of an item of a collection. -/
def step (p : Position) (number : Int) (index : Nat) : Position :=
  { p with path := p.path ++ [number, (index : Int)] }

/-- The place inside a message of that name. -/
def within (p : Position) (name : String) : Position :=
  { p with enclosing := p.enclosing ++ [name] }

variable (p : Position)

@[simp] theorem scope_step (number : Int) (index : Nat) :
    (p.step number index).scope = p.scope := rfl

@[simp] theorem parent_step (number : Int) (index : Nat) :
    (p.step number index).parent = p.parent := rfl

@[simp] theorem path_step (number : Int) (index : Nat) :
    (p.step number index).path = p.path ++ [number, (index : Int)] := rfl

@[simp] theorem scope_within (name : String) :
    (p.within name).scope = Identifier.child p.scope name := by
  simp [scope, within]

@[simp] theorem parent_within (name : String) :
    (p.within name).parent = some (Identifier.child p.scope name) := by
  rw [parent, if_neg (by simp [within]), scope_within]

end Position

/-- A descriptor at its place. -/
structure Declaration (α : Type) extends Position where
  item : α

/-- The items of a collection at a place, each with the place of its index. -/
def Position.declare {α : Type} (p : Position) (number : Int) (items : List α) :
    List (Declaration α) :=
  items.zipIdx.map fun (item, index) => ⟨p.step number index, item⟩

theorem Position.mem_declare {α : Type} {p : Position} {number : Int} {items : List α}
    {d : Declaration α} :
    d ∈ p.declare number items ↔ ∃ i item, items[i]? = some item ∧ d = ⟨p.step number i, item⟩ := by
  rw [declare, List.mem_map]
  constructor
  · rintro ⟨⟨item, i⟩, hmem, rfl⟩
    exact ⟨i, item, List.mem_zipIdx_iff_getElem?.1 hmem, rfl⟩
  · rintro ⟨i, item, hget, rfl⟩
    exact ⟨(item, i), List.mem_zipIdx_iff_getElem?.2 hget, rfl⟩

namespace Declaration

/-- The identifier of what is declared. -/
def id {α : Type} [Named α] (d : Declaration α) : String :=
  Identifier.child d.scope (nameOf d.item)

section Chains

variable {α : Type} [Named α]

/-- The names of the enclosing messages and the own name, the outermost first. -/
def chain (d : Declaration α) : List String := d.enclosing ++ [nameOf d.item]

theorem chain_ne_nil (d : Declaration α) : d.chain ≠ [] :=
  List.append_ne_nil_of_right_ne_nil _ (List.cons_ne_nil _ _)

theorem id_eq_foldl (d : Declaration α) :
    d.id = d.chain.foldl Identifier.child (Identifier.ofPackage d.package) := by
  rw [id, chain, List.foldl_append]
  rfl

end Chains

theorem parent_of_mem_declare {α : Type} {p : Position} {number : Int} {items : List α}
    {d : Declaration α} (h : d ∈ p.declare number items) : d.parent = p.parent := by
  obtain ⟨i, item, -, rfl⟩ := Position.mem_declare.1 h
  exact p.parent_step number i

theorem id_of_mem_declare {α : Type} [Named α] {p : Position} {number : Int} {items : List α}
    {d : Declaration α} (h : d ∈ p.declare number items) :
    d.id = Identifier.child p.scope (nameOf d.item) := by
  obtain ⟨i, item, -, rfl⟩ := Position.mem_declare.1 h
  rw [id, Position.scope_step]

/-- The identifiers of a collection. -/
theorem map_id_declare {α : Type} [Named α] (p : Position) (number : Int) (items : List α) :
    (p.declare number items).map id
      = items.map fun item => Identifier.child p.scope (nameOf item) := by
  conv_rhs => rw [← List.zipIdx_map_fst 0 items, List.map_map]
  rw [Position.declare, List.map_map]
  rfl

end Declaration

/-! ## Lists of lists -/

theorem flatMap_subset {α β : Type} {f : α → List β} {l l' : List α} (h : l ⊆ l') :
    l.flatMap f ⊆ l'.flatMap f := by
  intro b hb
  obtain ⟨a, ha, hb⟩ := List.mem_flatMap.1 hb
  exact List.mem_flatMap.2 ⟨a, h ha, hb⟩

theorem sublist_flatMap_of_mem {α β : Type} {l : List α} {a : α} (f : α → List β) (h : a ∈ l) :
    (f a).Sublist (l.flatMap f) :=
  List.sublist_flatten_of_mem (List.mem_map_of_mem h)

theorem sublist_flatMap_self {α : Type} {l : List α} {f : α → List α}
    (h : ∀ a ∈ l, [a].Sublist (f a)) : l.Sublist (l.flatMap f) := by
  induction l with
  | nil => exact .slnil
  | cons a l ih =>
      rw [List.flatMap_cons]
      exact (h a (List.mem_cons_self ..)).append (ih fun b hb => h b (List.mem_cons_of_mem _ hb))

/-! ## Messages and what is nested in them -/

/-- Is this the key and value entry behind a map field? -/
def MessageDescriptor.isMapEntry (d : MessageDescriptor) : Bool :=
  (d.options.bind (·.mapEntry)).getD false

mutual

/-- A message and the messages nested in it at any depth, each before those nested in it. -/
def MessageDescriptor.declarations (d : MessageDescriptor) (p : Position) :
    List (Declaration MessageDescriptor) :=
  match d with
  | ⟨name, fields, nestedTypes, enumTypes, options, oneofDecls⟩ =>
      ⟨p, ⟨name, fields, nestedTypes, enumTypes, options, oneofDecls⟩⟩ ::
        MessageDescriptor.declarationsFrom nestedTypes (p.within (textOf name)) 0

/-- The messages nested in a place, those of the given ones from an index on. -/
def MessageDescriptor.declarationsFrom (ds : List MessageDescriptor) (p : Position) (index : Nat) :
    List (Declaration MessageDescriptor) :=
  match ds with
  | [] => []
  | d :: ds => d.declarations (p.step 3 index) ++ declarationsFrom ds p (index + 1)

end

/-- What holds of a message when it holds of all nested ones holds of every message. -/
theorem MessageDescriptor.induction {P : MessageDescriptor → Prop}
    (h : ∀ d : MessageDescriptor, (∀ n ∈ d.nestedTypes, P n) → P d) (d : MessageDescriptor) :
    P d := by
  refine @MessageDescriptor.rec P (fun ds => ∀ n ∈ ds, P n) ?mk ?nil ?cons d
  case mk =>
    intro name fields nestedTypes enumTypes options oneofDecls ih
    exact h _ ih
  case nil =>
    intro n hn
    cases hn
  case cons =>
    intro d ds hd hds n hn
    rcases List.mem_cons.1 hn with rfl | hn
    · exact hd
    · exact hds n hn

namespace Declaration

variable (d : Declaration MessageDescriptor)

/-- The place inside a message. -/
def inside : Position := d.toPosition.within (nameOf d.item)

/-- The messages directly nested in a message. -/
def children : List (Declaration MessageDescriptor) := d.inside.declare 3 d.item.nestedTypes

/-- The enums directly nested in a message. -/
def enums : List (Declaration EnumDescriptor) := d.inside.declare 4 d.item.enumTypes

/-- A message and the messages nested in it at any depth. -/
def all : List (Declaration MessageDescriptor) := d.item.declarations d.toPosition

@[simp] theorem scope_inside : d.inside.scope = d.id := Position.scope_within ..

@[simp] theorem parent_inside : d.inside.parent = some d.id := Position.parent_within ..

@[simp] theorem package_inside : d.inside.package = d.package := rfl

@[simp] theorem path_inside : d.inside.path = d.path := rfl

theorem map_id_children :
    d.children.map id = d.item.nestedTypes.map fun m => Identifier.child d.id (nameOf m) := by
  rw [children, map_id_declare, scope_inside]

theorem map_id_enums :
    d.enums.map id = d.item.enumTypes.map fun e => Identifier.child d.id (nameOf e) := by
  rw [enums, map_id_declare, scope_inside]

theorem declarationsFrom_eq (ds : List MessageDescriptor) (p : Position) (index : Nat) :
    MessageDescriptor.declarationsFrom ds p index
      = (ds.zipIdx index).flatMap fun (m, i) => m.declarations (p.step 3 i) := by
  induction ds generalizing index with
  | nil => rfl
  | cons m ds ih => rw [MessageDescriptor.declarationsFrom, ih, List.zipIdx_cons, List.flatMap_cons]

/-- The messages below a message are those below its children. -/
theorem all_eq : d.all = d :: d.children.flatMap all := by
  obtain ⟨p, ⟨name, fields, nestedTypes, enumTypes, options, oneofDecls⟩⟩ := d
  rw [all, MessageDescriptor.declarations, declarationsFrom_eq, children, Position.declare,
    List.flatMap_map]
  rfl

theorem mem_all_self : d ∈ d.all := by
  rw [all_eq]
  exact List.mem_cons_self ..

variable {d}

theorem mem_all {e : Declaration MessageDescriptor} :
    e ∈ d.all ↔ e = d ∨ ∃ c ∈ d.children, e ∈ c.all := by
  rw [all_eq, List.mem_cons, List.mem_flatMap]

/-- What is declared in a message is nested in the chain of that message. -/
theorem nested_of_mem_declare {α : Type} {d : Declaration MessageDescriptor} {number : Int}
    {items : List α} {e : Declaration α} (h : e ∈ d.inside.declare number items) :
    e.package = d.package ∧ e.enclosing = d.chain := by
  obtain ⟨i, item, -, rfl⟩ := Position.mem_declare.1 h
  exact ⟨rfl, rfl⟩

theorem item_mem_of_mem_children {c : Declaration MessageDescriptor} (h : c ∈ d.children) :
    c.item ∈ d.item.nestedTypes := by
  obtain ⟨i, m, hm, rfl⟩ := Position.mem_declare.1 h
  exact List.mem_of_getElem? hm

/-- What holds of a message when it holds of its children holds of every message. -/
theorem induction {P : Declaration MessageDescriptor → Prop}
    (h : ∀ d : Declaration MessageDescriptor, (∀ c ∈ d.children, P c) → P d)
    (d : Declaration MessageDescriptor) : P d := by
  obtain ⟨p, m⟩ := d
  induction m using MessageDescriptor.induction generalizing p with
  | h m ih => exact h ⟨p, m⟩ fun c hc => ih c.item (item_mem_of_mem_children hc) c.toPosition

theorem singleton_sublist_all (d : Declaration MessageDescriptor) : [d].Sublist d.all :=
  List.singleton_sublist.2 d.mem_all_self

theorem children_sublist_all (d : Declaration MessageDescriptor) : d.children.Sublist d.all := by
  rw [all_eq]
  exact (sublist_flatMap_self fun c _ => c.singleton_sublist_all).cons d

theorem all_sublist_of_mem {d e : Declaration MessageDescriptor} (h : e ∈ d.all) :
    e.all.Sublist d.all := by
  induction d using Declaration.induction with
  | h d ih =>
      rcases mem_all.1 h with rfl | ⟨c, hc, he⟩
      · exact List.Sublist.refl _
      · rw [all_eq d]
        exact ((ih c hc he).trans (sublist_flatMap_of_mem all hc)).cons d

/-- Children are declared below what their parent is declared below. -/
theorem all_subset_of_mem {e : Declaration MessageDescriptor} (h : e ∈ d.all) : e.all ⊆ d.all :=
  (all_sublist_of_mem h).subset

/-- A message below another one is that message itself or a child of one below it. -/
theorem eq_or_child_of_mem_all {e : Declaration MessageDescriptor} (h : e ∈ d.all) :
    e = d ∨ ∃ c ∈ d.all, e ∈ c.children := by
  induction d using Declaration.induction with
  | h d ih =>
      rcases mem_all.1 h with rfl | ⟨c, hc, he⟩
      · exact Or.inl rfl
      · rcases ih c hc he with rfl | ⟨b, hb, he⟩
        · exact Or.inr ⟨d, d.mem_all_self, hc⟩
        · exact Or.inr ⟨b, mem_all.2 (Or.inr ⟨c, hc, hb⟩), he⟩

theorem mem_all_of_mem_children {c : Declaration MessageDescriptor} (h : c ∈ d.children) :
    c ∈ d.all :=
  mem_all.2 (Or.inr ⟨c, h, c.mem_all_self⟩)

end Declaration

/-! ## Files -/

namespace FileDescriptor

variable (file : FileDescriptor)

/-- The place of a file's top level. -/
def place : Position := { package := textOf file.package }

/-- The messages at the top level. -/
def topMessages : List (Declaration MessageDescriptor) := file.place.declare 4 file.messageTypes

/-- The enums at the top level. -/
def topEnums : List (Declaration EnumDescriptor) := file.place.declare 5 file.enumTypes

/-- All messages, each before those nested in it. -/
def declaredMessages : List (Declaration MessageDescriptor) :=
  file.topMessages.flatMap Declaration.all

/-- All enums: those at the top level, then those of each message. -/
def declaredEnums : List (Declaration EnumDescriptor) :=
  file.topEnums ++ file.declaredMessages.flatMap Declaration.enums

/-- All services. -/
def declaredServices : List (Declaration ServiceDescriptor) := file.place.declare 6 file.services

theorem mem_declaredMessages_of_top {d : Declaration MessageDescriptor}
    (h : d ∈ file.topMessages) : d ∈ file.declaredMessages :=
  List.mem_flatMap.2 ⟨d, h, d.mem_all_self⟩

theorem mem_declaredEnums_of_top {d : Declaration EnumDescriptor} (h : d ∈ file.topEnums) :
    d ∈ file.declaredEnums :=
  List.mem_append_left _ h

variable {file}

theorem all_subset_declaredMessages {d : Declaration MessageDescriptor}
    (h : d ∈ file.declaredMessages) : d.all ⊆ file.declaredMessages := by
  obtain ⟨top, htop, hd⟩ := List.mem_flatMap.1 h
  intro e he
  exact List.mem_flatMap.2 ⟨top, htop, Declaration.all_subset_of_mem hd he⟩

/-- A declared message is at the top level or a child of a declared message. -/
theorem message_cases {files : List FileDescriptor} {d : Declaration MessageDescriptor}
    (h : d ∈ files.flatMap declaredMessages) :
    d ∈ files.flatMap topMessages ∨ ∃ c ∈ files.flatMap declaredMessages, d ∈ c.children := by
  obtain ⟨file, hfile, hd⟩ := List.mem_flatMap.1 h
  obtain ⟨top, htop, hd⟩ := List.mem_flatMap.1 hd
  rcases Declaration.eq_or_child_of_mem_all hd with rfl | ⟨c, hc, hd⟩
  · exact Or.inl (List.mem_flatMap.2 ⟨file, hfile, htop⟩)
  · exact Or.inr ⟨c, List.mem_flatMap.2 ⟨file, hfile, List.mem_flatMap.2 ⟨top, htop, hc⟩⟩, hd⟩

theorem parent_cases {files : List FileDescriptor} {d : Declaration MessageDescriptor}
    (h : d ∈ files.flatMap declaredMessages) :
    d.parent = none ∨ ∃ c ∈ files.flatMap declaredMessages, d ∈ c.children := by
  refine (message_cases h).imp_left fun htop => ?_
  obtain ⟨file, -, hd⟩ := List.mem_flatMap.1 htop
  exact Declaration.parent_of_mem_declare hd

/-- A declared enum is at the top level or declared in a message. -/
theorem enum_cases {files : List FileDescriptor} {e : Declaration EnumDescriptor}
    (h : e ∈ files.flatMap declaredEnums) :
    e ∈ files.flatMap topEnums ∨ ∃ d ∈ files.flatMap declaredMessages, e ∈ d.enums := by
  obtain ⟨file, hfile, he⟩ := List.mem_flatMap.1 h
  rcases List.mem_append.1 he with he | he
  · exact Or.inl (List.mem_flatMap.2 ⟨file, hfile, he⟩)
  · obtain ⟨d, hd, he⟩ := List.mem_flatMap.1 he
    exact Or.inr ⟨d, List.mem_flatMap.2 ⟨file, hfile, hd⟩, he⟩

theorem enum_parent_cases {files : List FileDescriptor} {e : Declaration EnumDescriptor}
    (h : e ∈ files.flatMap declaredEnums) :
    e.parent = none ∨ ∃ d ∈ files.flatMap declaredMessages, e ∈ d.enums := by
  refine (enum_cases h).imp_left fun htop => ?_
  obtain ⟨file, -, he⟩ := List.mem_flatMap.1 htop
  exact Declaration.parent_of_mem_declare he

/-- The children of a declared message are declared as well. -/
theorem children_declared {files : List FileDescriptor} {d c : Declaration MessageDescriptor}
    (hd : d ∈ files.flatMap declaredMessages) (hc : c ∈ d.children) :
    c ∈ files.flatMap declaredMessages := by
  obtain ⟨file, hfile, hd⟩ := List.mem_flatMap.1 hd
  exact List.mem_flatMap.2
    ⟨file, hfile, all_subset_declaredMessages hd (Declaration.mem_all_of_mem_children hc)⟩

theorem enums_declared {files : List FileDescriptor} {d : Declaration MessageDescriptor}
    {c : Declaration EnumDescriptor} (hd : d ∈ files.flatMap declaredMessages)
    (hc : c ∈ d.enums) : c ∈ files.flatMap declaredEnums := by
  obtain ⟨file, hfile, hd⟩ := List.mem_flatMap.1 hd
  exact List.mem_flatMap.2
    ⟨file, hfile, List.mem_append_right _ (List.mem_flatMap.2 ⟨d, hd, hc⟩)⟩

end FileDescriptor

/-- What another file declares is not among the declarations of some files. -/
theorem id_notMem_of_notMem {α : Type} [Named α] {declared : FileDescriptor → List (Declaration α)}
    {files targets : List FileDescriptor}
    (hnd : ((files.flatMap declared).map Declaration.id).Nodup) (hsub : targets ⊆ files)
    {file : FileDescriptor} (hfile : file ∈ files) (hnot : file ∉ targets) {d : Declaration α}
    (hd : d ∈ declared file) : d.id ∉ (targets.flatMap declared).map Declaration.id := by
  intro hid
  obtain ⟨e, he, hid⟩ := List.mem_map.1 hid
  obtain ⟨f, hf, he⟩ := List.mem_flatMap.1 he
  have hne : f ≠ file := fun h => hnot (h ▸ hf)
  rw [List.map_flatMap, List.nodup_flatMap] at hnd
  have : Std.Symm (Function.onFun List.Disjoint fun f => (declared f).map Declaration.id) :=
    ⟨fun _ _ h _ hx hy => h hy hx⟩
  have hdisj := hnd.2.forall (hsub hf) hfile hne
  exact hdisj (List.mem_map_of_mem he) (hid ▸ List.mem_map_of_mem hd)

/-- Every message and every enum of the files has a name, and the name has no dot. -/
structure SimpleNames (files : List FileDescriptor) : Prop where
  messages : ∀ d ∈ files.flatMap FileDescriptor.declaredMessages,
    nameOf d.item ≠ "" ∧ '.' ∉ (nameOf d.item).toList
  enums : ∀ d ∈ files.flatMap FileDescriptor.declaredEnums,
    nameOf d.item ≠ "" ∧ '.' ∉ (nameOf d.item).toList

/-- No two messages, no two enums and no two services of the files have the same identifier. -/
structure DistinctIds (files : List FileDescriptor) : Prop where
  messages : ((files.flatMap FileDescriptor.declaredMessages).map Declaration.id).Nodup
  enums : ((files.flatMap FileDescriptor.declaredEnums).map Declaration.id).Nodup
  services : ((files.flatMap FileDescriptor.declaredServices).map Declaration.id).Nodup

theorem DistinctIds.sublist {files files' : List FileDescriptor} (h : DistinctIds files)
    (hsub : files'.Sublist files) : DistinctIds files' where
  messages := h.messages.sublist ((hsub.flatMap _).map _)
  enums := h.enums.sublist ((hsub.flatMap _).map _)
  services := h.services.sublist ((hsub.flatMap _).map _)

end ClientGen
