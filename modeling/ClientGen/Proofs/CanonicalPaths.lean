import ClientGen.Proofs.DocPaths

/-!
# The canonical paths of a file

The compiler numbers the elements of a file by the collections of its descriptor format: the
collections of a file are 4, 5 and 6, those of a message 2, 3, 4 and 8, those of an enum and of a
service 2, and each number is followed by an index.  This file gives these paths step by step, with
the names that are met on the way, and says that they are the paths that resolve.

* `FileDescriptor.MessageAt`, `EnumAt`, `ServiceAt` — what stands at a path below some names.
* `FileDescriptor.Canonical` — the element that a canonical path leads to.
* `FileDescriptor.canonical_iff` — these are the elements that the file declares.
* `FileDescriptor.resolve_canonical` — a path resolves to a target if and only if it is the
  canonical path of that target.
-/

namespace ClientGen

/-! ## Steps down a file -/

namespace FileDescriptor

/-- A message of the file, the path to it, and the names of the messages on the way, its own last.
-/
inductive MessageAt (file : FileDescriptor) : List Int → List String → MessageDescriptor → Prop
  | top {i : Nat} {m} (h : file.messageTypes[i]? = some m) : MessageAt file [4, i] [nameOf m] m
  | nested {path names m} {i : Nat} {n} (hm : MessageAt file path names m)
      (h : m.nestedTypes[i]? = some n) :
      MessageAt file (path ++ [3, (i : Int)]) (names ++ [nameOf n]) n

/-- An enum of the file, the path to it, and the names of the messages on the way and its own. -/
inductive EnumAt (file : FileDescriptor) : List Int → List String → EnumDescriptor → Prop
  | top {i : Nat} {e} (h : file.enumTypes[i]? = some e) : EnumAt file [5, i] [nameOf e] e
  | nested {path names m} {i : Nat} {e} (hm : MessageAt file path names m)
      (h : m.enumTypes[i]? = some e) :
      EnumAt file (path ++ [4, (i : Int)]) (names ++ [nameOf e]) e

/-- A service of the file, the path to it, and its name. -/
inductive ServiceAt (file : FileDescriptor) : List Int → List String → ServiceDescriptor → Prop
  | top {i : Nat} {s} (h : file.services[i]? = some s) : ServiceAt file [6, i] [nameOf s] s

/-- The identifier of what stands below some names: the package, then each name after a dot. -/
def idBelow (file : FileDescriptor) (names : List String) : String :=
  names.foldl Identifier.child (Identifier.ofPackage (textOf file.package))

/-- The path is the canonical one of an element of the file, and the target names the element by
the names on the way. -/
inductive Canonical (file : FileDescriptor) : List Int → DocTarget → Prop
  | message {path names m} (hm : file.MessageAt path names m) :
      Canonical file path (.message (file.idBelow names))
  | field {path names m} {i : Nat} {f} (hm : file.MessageAt path names m)
      (hf : m.fields[i]? = some f) :
      Canonical file (path ++ [2, (i : Int)])
        (.field (file.idBelow names) (file.idBelow (names ++ [nameOf f])))
  | oneOf {path names m} {i : Nat} {o} (hm : file.MessageAt path names m)
      (ho : m.oneofDecls[i]? = some o) :
      Canonical file (path ++ [8, (i : Int)])
        (.oneOf (file.idBelow names) (file.idBelow (names ++ [nameOf o])))
  | enum {path names e} (he : file.EnumAt path names e) :
      Canonical file path (.enum (file.idBelow names))
  | enumValue {path names e} {i : Nat} {v} (he : file.EnumAt path names e)
      (hv : e.values[i]? = some v) :
      Canonical file (path ++ [2, (i : Int)]) (.enumValue (file.idBelow names) (nameOf v))
  | service {path names s} (hs : file.ServiceAt path names s) :
      Canonical file path (.service (file.idBelow names))
  | method {path names s} {i : Nat} {m} (hs : file.ServiceAt path names s)
      (hm : s.methods[i]? = some m) :
      Canonical file (path ++ [2, (i : Int)]) (.method (file.idBelow names) (nameOf m))

/-! ## They lead to what is declared -/

variable {file : FileDescriptor}

theorem idBelow_concat (names : List String) (name : String) :
    file.idBelow (names ++ [name]) = Identifier.child (file.idBelow names) name := by
  rw [idBelow, List.foldl_append]
  rfl

theorem idBelow_chain {α : Type} [Named α] {d : Declaration α}
    (h : d.package = textOf file.package) : file.idBelow d.chain = d.id := by
  rw [idBelow, ← h, ← d.id_eq_foldl]

theorem messageAt_of_mem_all {d e : Declaration MessageDescriptor}
    (hd : file.MessageAt d.path d.chain d.item) (hpackage : d.package = textOf file.package)
    (he : e ∈ d.all) :
    file.MessageAt e.path e.chain e.item ∧ e.package = textOf file.package := by
  induction d using Declaration.induction with
  | h d ih =>
      rcases Declaration.mem_all.1 he with rfl | ⟨c, hc, he⟩
      · exact ⟨hd, hpackage⟩
      · obtain ⟨i, n, hn, rfl⟩ := Position.mem_declare.1 hc
        exact ih _ hc (hd.nested hn) hpackage he

/-- What the file declares stands at its path, below its names. -/
theorem messageAt_of_mem {d : Declaration MessageDescriptor} (h : d ∈ file.declaredMessages) :
    file.MessageAt d.path d.chain d.item ∧ d.package = textOf file.package := by
  obtain ⟨top, htop, hd⟩ := List.mem_flatMap.1 h
  obtain ⟨i, m, hm, rfl⟩ := Position.mem_declare.1 htop
  exact messageAt_of_mem_all (.top hm) rfl hd

theorem enumAt_of_mem {d : Declaration EnumDescriptor} (h : d ∈ file.declaredEnums) :
    file.EnumAt d.path d.chain d.item ∧ d.package = textOf file.package := by
  rcases List.mem_append.1 h with htop | hnested
  · obtain ⟨i, e, he, rfl⟩ := Position.mem_declare.1 htop
    exact ⟨.top he, rfl⟩
  · obtain ⟨m, hm, hd⟩ := List.mem_flatMap.1 hnested
    obtain ⟨hat, hpackage⟩ := messageAt_of_mem hm
    obtain ⟨i, e, he, rfl⟩ := Position.mem_declare.1 hd
    exact ⟨.nested hat he, hpackage⟩

theorem serviceAt_of_mem {d : Declaration ServiceDescriptor} (h : d ∈ file.declaredServices) :
    file.ServiceAt d.path d.chain d.item ∧ d.package = textOf file.package := by
  obtain ⟨i, s, hs, rfl⟩ := Position.mem_declare.1 h
  exact ⟨.top hs, rfl⟩

/-- What stands at a path is declared there. -/
theorem MessageAt.exists_declared {path : List Int} {names : List String} {m : MessageDescriptor}
    (h : file.MessageAt path names m) :
    ∃ d ∈ file.declaredMessages, d.path = path ∧ d.chain = names ∧ d.item = m := by
  induction h with
  | @top i m hm =>
      refine ⟨⟨file.place.step 4 i, m⟩, ?_, rfl, rfl, rfl⟩
      exact file.mem_declaredMessages_of_top (Position.mem_declare.2 ⟨i, m, hm, rfl⟩)
  | @nested path names m i n _ hn ih =>
      obtain ⟨d, hd, rfl, rfl, rfl⟩ := ih
      refine ⟨⟨d.inside.step 3 i, n⟩, ?_, rfl, rfl, rfl⟩
      exact all_subset_declaredMessages hd
        (Declaration.mem_all_of_mem_children (Position.mem_declare.2 ⟨i, n, hn, rfl⟩))

theorem EnumAt.exists_declared {path : List Int} {names : List String} {e : EnumDescriptor}
    (h : file.EnumAt path names e) :
    ∃ d ∈ file.declaredEnums, d.path = path ∧ d.chain = names ∧ d.item = e := by
  cases h with
  | @top i e he =>
      refine ⟨⟨file.place.step 5 i, e⟩, ?_, rfl, rfl, rfl⟩
      exact file.mem_declaredEnums_of_top (Position.mem_declare.2 ⟨i, e, he, rfl⟩)
  | @nested path names m i e hm he =>
      obtain ⟨d, hd, rfl, rfl, rfl⟩ := hm.exists_declared
      refine ⟨⟨d.inside.step 4 i, e⟩, ?_, rfl, rfl, rfl⟩
      exact List.mem_append_right _
        (List.mem_flatMap.2 ⟨d, hd, Position.mem_declare.2 ⟨i, e, he, rfl⟩⟩)

theorem ServiceAt.exists_declared {path : List Int} {names : List String} {s : ServiceDescriptor}
    (h : file.ServiceAt path names s) :
    ∃ d ∈ file.declaredServices, d.path = path ∧ d.chain = names ∧ d.item = s := by
  cases h with
  | @top i s hs =>
      exact ⟨⟨file.place.step 6 i, s⟩, Position.mem_declare.2 ⟨i, s, hs, rfl⟩, rfl, rfl, rfl⟩

/-- **The canonical paths are those of the declarations and their parts.** -/
theorem canonical_iff {path : List Int} {target : DocTarget} :
    file.Canonical path target ↔ file.Declares path target := by
  constructor
  · intro h
    cases h with
    | message hm =>
        obtain ⟨d, hd, rfl, rfl, rfl⟩ := hm.exists_declared
        rw [idBelow_chain (messageAt_of_mem hd).2]
        exact .message hd
    | field hm hf =>
        obtain ⟨d, hd, rfl, rfl, rfl⟩ := hm.exists_declared
        rw [idBelow_concat, idBelow_chain (messageAt_of_mem hd).2]
        exact .field hd hf
    | oneOf hm ho =>
        obtain ⟨d, hd, rfl, rfl, rfl⟩ := hm.exists_declared
        rw [idBelow_concat, idBelow_chain (messageAt_of_mem hd).2]
        exact .oneOf hd ho
    | enum he =>
        obtain ⟨d, hd, rfl, rfl, rfl⟩ := he.exists_declared
        rw [idBelow_chain (enumAt_of_mem hd).2]
        exact .enum hd
    | enumValue he hv =>
        obtain ⟨d, hd, rfl, rfl, rfl⟩ := he.exists_declared
        rw [idBelow_chain (enumAt_of_mem hd).2]
        exact .enumValue hd hv
    | service hs =>
        obtain ⟨d, hd, rfl, rfl, rfl⟩ := hs.exists_declared
        rw [idBelow_chain (serviceAt_of_mem hd).2]
        exact .service hd
    | method hs hm =>
        obtain ⟨d, hd, rfl, rfl, rfl⟩ := hs.exists_declared
        rw [idBelow_chain (serviceAt_of_mem hd).2]
        exact .method hd hm
  · intro h
    cases h with
    | message hd =>
        obtain ⟨hat, hpackage⟩ := messageAt_of_mem hd
        rw [← idBelow_chain hpackage]
        exact .message hat
    | field hd hf =>
        obtain ⟨hat, hpackage⟩ := messageAt_of_mem hd
        rw [← idBelow_chain hpackage, ← idBelow_concat]
        exact .field hat hf
    | oneOf hd ho =>
        obtain ⟨hat, hpackage⟩ := messageAt_of_mem hd
        rw [← idBelow_chain hpackage, ← idBelow_concat]
        exact .oneOf hat ho
    | enum hd =>
        obtain ⟨hat, hpackage⟩ := enumAt_of_mem hd
        rw [← idBelow_chain hpackage]
        exact .enum hat
    | enumValue hd hv =>
        obtain ⟨hat, hpackage⟩ := enumAt_of_mem hd
        rw [← idBelow_chain hpackage]
        exact .enumValue hat hv
    | service hd =>
        obtain ⟨hat, hpackage⟩ := serviceAt_of_mem hd
        rw [← idBelow_chain hpackage]
        exact .service hat
    | method hd hm =>
        obtain ⟨hat, hpackage⟩ := serviceAt_of_mem hd
        rw [← idBelow_chain hpackage]
        exact .method hat hm

/-! ## What the paths look like -/

/-- A path that takes one step after the other, each by the number of a collection and an index.
The first collection is one of a file, the others are those of messages, enums and services. -/
def Stepwise (path : List Int) : Prop :=
  ∃ (first : Int × Nat) (rest : List (Int × Nat)),
    path = (first :: rest).flatMap (fun step => [step.1, (step.2 : Int)]) ∧
    first.1 ∈ [4, 5, 6] ∧ ∀ step ∈ rest, step.1 ∈ [2, 3, 4, 8]

theorem stepwise_top {number : Int} {i : Nat} (h : number ∈ [4, 5, 6]) :
    Stepwise [number, (i : Int)] :=
  ⟨(number, i), [], rfl, h, fun _ hstep => nomatch hstep⟩

theorem Stepwise.concat {path : List Int} (h : Stepwise path) {number : Int} (i : Nat)
    (hnumber : number ∈ [2, 3, 4, 8]) : Stepwise (path ++ [number, (i : Int)]) := by
  obtain ⟨first, rest, rfl, hfirst, hrest⟩ := h
  refine ⟨first, rest ++ [(number, i)], ?_, hfirst, fun step hstep => ?_⟩
  · rw [← List.cons_append, List.flatMap_append, List.flatMap_singleton]
  · rcases List.mem_append.1 hstep with hstep | hstep
    · exact hrest step hstep
    · rw [List.mem_singleton.1 hstep]
      exact hnumber

theorem MessageAt.stepwise {path : List Int} {names : List String} {m : MessageDescriptor}
    (h : file.MessageAt path names m) : Stepwise path := by
  induction h with
  | top _ => exact stepwise_top (by decide)
  | @nested _ _ _ i _ _ _ ih => exact ih.concat i (by decide)

theorem EnumAt.stepwise {path : List Int} {names : List String} {e : EnumDescriptor}
    (h : file.EnumAt path names e) : Stepwise path := by
  cases h with
  | top _ => exact stepwise_top (by decide)
  | @nested _ _ _ i _ hm _ => exact hm.stepwise.concat i (by decide)

theorem ServiceAt.stepwise {path : List Int} {names : List String} {s : ServiceDescriptor}
    (h : file.ServiceAt path names s) : Stepwise path := by
  cases h with
  | top _ => exact stepwise_top (by decide)

/-- A canonical path consists of whole steps, with indexes that are not negative. -/
theorem Canonical.stepwise {path : List Int} {target : DocTarget} (h : file.Canonical path target) :
    Stepwise path := by
  cases h with
  | message hm => exact hm.stepwise
  | @field _ _ _ i _ hm _ | @oneOf _ _ _ i _ hm _ => exact hm.stepwise.concat i (by decide)
  | enum he => exact he.stepwise
  | @enumValue _ _ _ i _ he _ => exact he.stepwise.concat i (by decide)
  | service hs => exact hs.stepwise
  | @method _ _ _ i _ hs _ => exact hs.stepwise.concat i (by decide)

end FileDescriptor

/-! ## Nothing stands below a part -/

/-- The target is a part of a message, an enum or a service, with nothing below it. -/
def DocTarget.IsPart : DocTarget → Prop
  | .field .. | .oneOf .. | .enumValue .. | .method .. => True
  | .message _ | .enum _ | .service _ => False

section BelowParts

variable {id : String} {path rest : List Int32} {target : DocTarget}

theorem EnumDescriptor.resolve_append {d : EnumDescriptor} (h : d.resolve id path = some target)
    (hpart : target.IsPart) (hrest : rest ≠ []) : d.resolve id (path ++ rest) = none := by
  obtain ⟨step, rest, rfl⟩ := List.exists_cons_of_ne_nil hrest
  unfold resolve at h
  split at h
  · rw [← Option.some.inj h] at hpart
    cases hpart
  · rfl
  · cases h

theorem ServiceDescriptor.resolve_append {d : ServiceDescriptor}
    (h : d.resolve id path = some target) (hpart : target.IsPart) (hrest : rest ≠ []) :
    d.resolve id (path ++ rest) = none := by
  obtain ⟨step, rest, rfl⟩ := List.exists_cons_of_ne_nil hrest
  unfold resolve at h
  split at h
  · rw [← Option.some.inj h] at hpart
    cases hpart
  · rfl
  · cases h

/-- What no item resolves, the collection does not resolve. -/
theorem bind_elementAt?_append {α : Type} {items : List α} {index : Int32}
    {resolve : α → List Int32 → Option DocTarget}
    (h : ((elementAt? items index).bind fun a => resolve a path) = some target)
    (hitem : ∀ a ∈ items, resolve a path = some target → resolve a (path ++ rest) = none) :
    ((elementAt? items index).bind fun a => resolve a (path ++ rest)) = none := by
  obtain ⟨a, ha, h⟩ := Option.bind_eq_some_iff.1 h
  obtain ⟨i, -, hi⟩ := elementAt?_eq_some.1 ha
  rw [ha, Option.bind_some, hitem a (List.mem_of_getElem? hi) h]

theorem MessageDescriptor.resolve_append {d : MessageDescriptor}
    (h : d.resolve id path = some target) (hpart : target.IsPart) (hrest : rest ≠ []) :
    d.resolve id (path ++ rest) = none := by
  induction d using MessageDescriptor.induction generalizing id path with
  | h d ih =>
      obtain ⟨step, more, rfl⟩ := List.exists_cons_of_ne_nil hrest
      unfold resolve at h
      split at h
      · rw [← Option.some.inj h] at hpart
        cases hpart
      · cases h
      · rename_i number index below
        have hlong : (below ++ step :: more).isEmpty = false := by simp
        rw [List.cons_append, List.cons_append, resolve]
        simp only [hlong, Bool.false_eq_true, if_false]
        split_ifs at h ⊢ with h2 h3 h4 h8
        · rfl
        · exact bind_elementAt?_append h fun n hn hresolve => ih n hn hresolve
        · exact bind_elementAt?_append h fun e _ hresolve => e.resolve_append hresolve hpart hrest
        · rfl

theorem FileDescriptor.resolve_append {file : FileDescriptor} (h : file.resolve path = some target)
    (hpart : target.IsPart) (hrest : rest ≠ []) : file.resolve (path ++ rest) = none := by
  unfold resolve at h
  split at h
  · rename_i number index below
    rw [List.cons_append, List.cons_append, resolve]
    split_ifs at h ⊢ with h4 h5 h6
    · exact bind_elementAt?_append h fun m _ hresolve => m.resolve_append hresolve hpart hrest
    · exact bind_elementAt?_append h fun e _ hresolve => e.resolve_append hresolve hpart hrest
    · exact bind_elementAt?_append h fun s _ hresolve => s.resolve_append hresolve hpart hrest
  · cases h

end BelowParts

/-! ## The paths that resolve -/

/-- **A path resolves if and only if it is canonical.**  It resolves to the target that names the
element at the path by the names on the way, and to nothing else.  A path that resolves consists of
whole steps by numbers of collections and indexes that are not negative, and no longer path resolves
below a field, a group, a value or a method. -/
theorem FileDescriptor.resolve_canonical (file : FileDescriptor) (path : List Int32) :
    (∀ target, file.resolve path = some target
      ↔ file.Canonical (path.map Int32.toInt) target) ∧
    (file.resolve path ≠ none → Stepwise (path.map Int32.toInt)) ∧
    ∀ target rest, file.resolve path = some target → target.IsPart → rest ≠ [] →
      file.resolve (path ++ rest) = none := by
  have hcanonical : ∀ target, file.resolve path = some target
      ↔ file.Canonical (path.map Int32.toInt) target := fun target => by
    rw [resolve_eq_some_iff, canonical_iff]
  refine ⟨hcanonical, fun hsome => ?_, fun target rest h hpart hrest =>
    resolve_append h hpart hrest⟩
  obtain ⟨target, htarget⟩ := Option.ne_none_iff_exists'.1 hsome
  exact ((hcanonical target).1 htarget).stepwise

/-- A bookcase with a message and an enum inside a message. -/
def bookcase : FileDescriptor where
  package := some "lib"
  messageTypes :=
    [{ name := some "Shelf"
       fields := [{ name := some "label" }]
       nestedTypes := [{ name := some "Book", fields := [{ name := some "title" }] }]
       enumTypes := [{ name := some "Kind", values := [{ name := some "FICTION" }] }] }]

/-- The path of a field in a nested message: it resolves, and nothing resolves below it. -/
theorem bookcase_resolved :
    bookcase.resolve [4, 0, 3, 0, 2, 0]
      = some (.field ".lib.Shelf.Book" ".lib.Shelf.Book.title") ∧
    bookcase.Canonical [4, 0, 3, 0, 2, 0] (.field ".lib.Shelf.Book" ".lib.Shelf.Book.title") ∧
    FileDescriptor.Stepwise [4, 0, 3, 0, 2, 0] ∧
    DocTarget.IsPart (.field ".lib.Shelf.Book" ".lib.Shelf.Book.title") ∧
    bookcase.resolve [4, 0, 3, 0, 2, 0, 1, 0] = none := by
  obtain ⟨hcanonical, hsteps, hbelow⟩ := bookcase.resolve_canonical [4, 0, 3, 0, 2, 0]
  have hpath : bookcase.resolve [4, 0, 3, 0, 2, 0]
      = some (.field ".lib.Shelf.Book" ".lib.Shelf.Book.title") := by decide
  have hsome : bookcase.resolve [4, 0, 3, 0, 2, 0] ≠ none := by
    rw [hpath]
    exact Option.some_ne_none _
  exact ⟨hpath, (hcanonical _).1 hpath, hsteps hsome, trivial,
    hbelow _ [1, 0] hpath trivial (List.cons_ne_nil _ _)⟩

end ClientGen
