import ClientGen.Proofs.Declarations
import ClientGen.Schema.DocPath
import Mathlib.Data.List.Pairwise

/-!
# A path resolves to what is declared there

The place of a declaration has the path that the compiler uses for it.  This file says that reading
a path and declaring are the same relation between paths and targets.

* `Locates` — some declarations, or their parts, stand at a path.
* `FileDescriptor.resolve_eq_some_iff` — a path of a file resolves to a target if and only if the
  file declares the target at that path.
* `FileDescriptor.Declares.path_unique` — when identifiers, and names within a parent, are distinct
  a target is declared at one path only.
* `FileDescriptor.Owns`, `DistinctIds.pairwise` — and by one file only.
-/

namespace ClientGen

/-! ## What stands at a path -/

/-- The path is that of one of the declarations, or of one of its parts, and the target names it. -/
inductive Locates (ms : List (Declaration MessageDescriptor))
    (es : List (Declaration EnumDescriptor)) (ss : List (Declaration ServiceDescriptor)) :
    List Int → DocTarget → Prop
  | message {d} (hd : d ∈ ms) : Locates ms es ss d.path (.message d.id)
  | field {d} {i : Nat} {f} (hd : d ∈ ms) (hf : d.item.fields[i]? = some f) :
      Locates ms es ss (d.path ++ [2, (i : Int)])
        (.field d.id (Identifier.child d.id (nameOf f)))
  | oneOf {d} {i : Nat} {o} (hd : d ∈ ms) (ho : d.item.oneofDecls[i]? = some o) :
      Locates ms es ss (d.path ++ [8, (i : Int)])
        (.oneOf d.id (Identifier.child d.id (nameOf o)))
  | enum {d} (hd : d ∈ es) : Locates ms es ss d.path (.enum d.id)
  | enumValue {d} {i : Nat} {v} (hd : d ∈ es) (hv : d.item.values[i]? = some v) :
      Locates ms es ss (d.path ++ [2, (i : Int)]) (.enumValue d.id (nameOf v))
  | service {d} (hd : d ∈ ss) : Locates ms es ss d.path (.service d.id)
  | method {d} {i : Nat} {m} (hd : d ∈ ss) (hm : d.item.methods[i]? = some m) :
      Locates ms es ss (d.path ++ [2, (i : Int)]) (.method d.id (nameOf m))

namespace Locates

variable {ms ms' : List (Declaration MessageDescriptor)}
  {es es' : List (Declaration EnumDescriptor)} {ss ss' : List (Declaration ServiceDescriptor)}
  {path : List Int} {target : DocTarget}

theorem mono (h : Locates ms es ss path target) (hms : ms ⊆ ms') (hes : es ⊆ es')
    (hss : ss ⊆ ss') : Locates ms' es' ss' path target := by
  cases h with
  | message hd => exact .message (hms hd)
  | field hd hf => exact .field (hms hd) hf
  | oneOf hd ho => exact .oneOf (hms hd) ho
  | enum hd => exact .enum (hes hd)
  | enumValue hd hv => exact .enumValue (hes hd) hv
  | service hd => exact .service (hss hd)
  | method hd hm => exact .method (hss hd) hm

theorem append_iff :
    Locates (ms ++ ms') (es ++ es') (ss ++ ss') path target
      ↔ Locates ms es ss path target ∨ Locates ms' es' ss' path target := by
  constructor
  · intro h
    cases h with
    | message hd => exact (List.mem_append.1 hd).imp .message .message
    | field hd hf => exact (List.mem_append.1 hd).imp (.field · hf) (.field · hf)
    | oneOf hd ho => exact (List.mem_append.1 hd).imp (.oneOf · ho) (.oneOf · ho)
    | enum hd => exact (List.mem_append.1 hd).imp .enum .enum
    | enumValue hd hv => exact (List.mem_append.1 hd).imp (.enumValue · hv) (.enumValue · hv)
    | service hd => exact (List.mem_append.1 hd).imp .service .service
    | method hd hm => exact (List.mem_append.1 hd).imp (.method · hm) (.method · hm)
  · rintro (h | h)
    · exact h.mono (List.subset_append_left ..) (List.subset_append_left ..)
        (List.subset_append_left ..)
    · exact h.mono (List.subset_append_right ..) (List.subset_append_right ..)
        (List.subset_append_right ..)

theorem flatMap_iff {α : Type} {messages : α → List (Declaration MessageDescriptor)}
    {enums : α → List (Declaration EnumDescriptor)} {l : List α} :
    Locates (l.flatMap messages) (l.flatMap enums) [] path target
      ↔ ∃ a ∈ l, Locates (messages a) (enums a) [] path target := by
  induction l with
  | nil =>
      constructor
      · intro h
        cases h with
        | message hd | field hd _ | oneOf hd _ | enum hd | enumValue hd _ | service hd
        | method hd _ => cases hd
      · rintro ⟨a, ha, -⟩
        cases ha
  | cons a l ih =>
      rw [List.flatMap_cons, List.flatMap_cons, ← List.append_nil [], append_iff, ih]
      simp

theorem enums_iff : Locates [] es [] path target ↔ ∃ e ∈ es, Locates [] [e] [] path target := by
  have h : Locates (es.flatMap fun _ => []) (es.flatMap ([·])) [] path target
      ↔ ∃ e ∈ es, Locates [] [e] [] path target := flatMap_iff
  rwa [List.flatMap_eq_nil_iff.2 fun _ _ => rfl, List.flatMap_singleton'] at h

theorem services_iff : Locates [] [] ss path target ↔ ∃ s ∈ ss, Locates [] [] [s] path target := by
  constructor
  · intro h
    cases h with
    | @service d hd => exact ⟨d, hd, .service (List.mem_singleton_self d)⟩
    | @method d _ _ hd hm => exact ⟨d, hd, .method (List.mem_singleton_self d) hm⟩
    | message hd | field hd _ | oneOf hd _ | enum hd | enumValue hd _ => cases hd
  · rintro ⟨s, hs, h⟩
    exact h.mono (List.nil_subset _) (List.nil_subset _)
      (List.cons_subset.2 ⟨hs, List.nil_subset _⟩)

end Locates

/-! ## One step of a path -/

/-- An index into a collection is one that is not negative. -/
theorem elementAt?_eq_some {α : Type} {items : List α} {index : Int32} {a : α} :
    elementAt? items index = some a ↔ ∃ i : Nat, index.toInt = i ∧ items[i]? = some a := by
  have hneg : index < 0 ↔ index.toInt < 0 := Int32.lt_iff_toInt_lt
  unfold elementAt?
  split
  · rename_i h
    constructor
    · intro hnone
      cases hnone
    · rintro ⟨i, hi, -⟩
      have := hneg.1 h
      omega
  · rename_i h
    rw [hneg, Int.not_lt] at h
    constructor
    · intro hget
      exact ⟨index.toInt.toNat, (Int.toNat_of_nonneg h).symm, hget⟩
    · rintro ⟨i, hi, hget⟩
      rwa [hi, Int.toNat_natCast]

/-- A path that reads as a number and the index of an item takes the step to that item. -/
theorem exists_step {α : Type} {items : List α} {a : α} {i : Nat} (n : Int32) {path : List Int32}
    {rest : List Int} (h : path.map Int32.toInt = n.toInt :: (i : Int) :: rest)
    (ha : items[i]? = some a) :
    ∃ index q, path = n :: index :: q ∧ elementAt? items index = some a ∧
      q.map Int32.toInt = rest := by
  match path, h with
  | [n'], h => simp at h
  | n' :: index :: q, h =>
      simp only [List.map_cons, List.cons.injEq] at h
      obtain ⟨hn, hi, hq⟩ := h
      exact ⟨index, q, by rw [Int32.toInt_inj.1 hn], elementAt?_eq_some.2 ⟨i, hi, ha⟩, hq⟩

/-! ## Resolving, one kind of descriptor after the other

Each kind has a statement for either direction.  They are apart because only the first one is about
a path that is given: a place may have an index that no path of the compiler can hold. -/

/-- Past the base, the path is one that the function follows to the target, however it is written in
the numbers of the compiler. -/
def Leads (base : List Int) (resolve : List Int32 → Option DocTarget) (p : List Int)
    (target : DocTarget) : Prop :=
  ∃ q, p = base ++ q ∧ ∀ path : List Int32, path.map Int32.toInt = q → resolve path = some target

variable {path : List Int32} {target : DocTarget} {α : Type} {items : List α}

/-- Following a path into a collection, and from an item on. -/
theorem exists_declared [Named α] {p : Position} (number : Int) {index : Int32}
    {resolve : α → String → List Int32 → Option DocTarget}
    (h : ((elementAt? items index).bind fun a =>
      resolve a (Identifier.child p.scope (nameOf a)) path) = some target) :
    ∃ d ∈ p.declare number items, resolve d.item d.id path = some target ∧
      d.path = p.path ++ [number, index.toInt] := by
  obtain ⟨a, ha, h⟩ := Option.bind_eq_some_iff.1 h
  obtain ⟨i, hi, ha⟩ := elementAt?_eq_some.1 ha
  rw [hi]
  exact ⟨⟨p.step number i, a⟩, Position.mem_declare.2 ⟨i, a, ha, rfl⟩, h, rfl⟩

/-- What leads to a target from an item of a collection leads there from the collection. -/
theorem Leads.of_declared [Named α] {p : Position} {n : Int32} {d : Declaration α}
    {resolve : α → String → List Int32 → Option DocTarget}
    {outer : List Int32 → Option DocTarget} {l : List Int}
    (h : Leads d.path (resolve d.item d.id) l target) (hd : d ∈ p.declare n.toInt items)
    (houter : ∀ index rest, outer (n :: index :: rest)
      = (elementAt? items index).bind fun a =>
          resolve a (Identifier.child p.scope (nameOf a)) rest) :
    Leads p.path outer l target := by
  obtain ⟨q, rfl, hq⟩ := h
  have hid := Declaration.id_of_mem_declare hd
  obtain ⟨i, a, ha, rfl⟩ := Position.mem_declare.1 hd
  refine ⟨n.toInt :: (i : Int) :: q, by simp, fun path hpath => ?_⟩
  obtain ⟨index, rest, rfl, ha, hrest⟩ := exists_step n hpath ha
  rw [houter, ha, Option.bind_some, ← hq rest hrest, hid]

theorem Leads.self {base : List Int} {resolve : List Int32 → Option DocTarget}
    (h : resolve [] = some target) : Leads base resolve base target :=
  ⟨[], (List.append_nil _).symm, fun path hpath => by rw [List.map_eq_nil_iff.1 hpath, h]⟩

/-- What leads to a part. -/
theorem Leads.part {base : List Int} {resolve : List Int32 → Option DocTarget} {n : Int32} {i : Nat}
    {a : α} {part : α → DocTarget} (ha : items[i]? = some a)
    (h : ∀ index, resolve [n, index] = (elementAt? items index).map part)
    (htarget : part a = target) :
    Leads base resolve (base ++ [n.toInt, (i : Int)]) target := by
  refine ⟨[n.toInt, (i : Int)], rfl, fun path hpath => ?_⟩
  obtain ⟨index, q, rfl, ha, hq⟩ := exists_step n hpath ha
  rw [List.map_eq_nil_iff.1 hq, h, ha, Option.map_some, htarget]

theorem EnumDescriptor.locates_of_resolve {d : Declaration EnumDescriptor}
    (h : d.item.resolve d.id path = some target) :
    Locates [] [d] [] (d.path ++ path.map Int32.toInt) target := by
  unfold EnumDescriptor.resolve at h
  split at h
  · obtain rfl := Option.some.inj h
    rw [List.map_nil, List.append_nil]
    exact .enum (List.mem_singleton_self d)
  · obtain ⟨v, hv, rfl⟩ := Option.map_eq_some_iff.1 h
    obtain ⟨i, hi, hv⟩ := elementAt?_eq_some.1 hv
    rw [List.map_cons, List.map_singleton, hi]
    exact .enumValue (List.mem_singleton_self d) hv
  · cases h

theorem EnumDescriptor.resolve_of_locates {d : Declaration EnumDescriptor} {p : List Int}
    (h : Locates [] [d] [] p target) : Leads d.path (d.item.resolve d.id) p target := by
  cases h with
  | enum hd =>
      obtain rfl := List.mem_singleton.1 hd
      exact Leads.self rfl
  | enumValue hd hv =>
      obtain rfl := List.mem_singleton.1 hd
      exact Leads.part (n := 2) hv (fun _ => rfl) rfl
  | message hd | field hd _ | oneOf hd _ | service hd | method hd _ => cases hd

theorem ServiceDescriptor.locates_of_resolve {d : Declaration ServiceDescriptor}
    (h : d.item.resolve d.id path = some target) :
    Locates [] [] [d] (d.path ++ path.map Int32.toInt) target := by
  unfold ServiceDescriptor.resolve at h
  split at h
  · obtain rfl := Option.some.inj h
    rw [List.map_nil, List.append_nil]
    exact .service (List.mem_singleton_self d)
  · obtain ⟨m, hm, rfl⟩ := Option.map_eq_some_iff.1 h
    obtain ⟨i, hi, hm⟩ := elementAt?_eq_some.1 hm
    rw [List.map_cons, List.map_singleton, hi]
    exact .method (List.mem_singleton_self d) hm
  · cases h

theorem ServiceDescriptor.resolve_of_locates {d : Declaration ServiceDescriptor} {p : List Int}
    (h : Locates [] [] [d] p target) : Leads d.path (d.item.resolve d.id) p target := by
  cases h with
  | service hd =>
      obtain rfl := List.mem_singleton.1 hd
      exact Leads.self rfl
  | method hd hm =>
      obtain rfl := List.mem_singleton.1 hd
      exact Leads.part (n := 2) hm (fun _ => rfl) rfl
  | message hd | field hd _ | oneOf hd _ | enum hd | enumValue hd _ => cases hd

namespace MessageDescriptor

variable {d : Declaration MessageDescriptor}

theorem locates_of_resolve (h : d.item.resolve d.id path = some target) :
    Locates d.all (d.all.flatMap Declaration.enums) [] (d.path ++ path.map Int32.toInt) target := by
  induction d using Declaration.induction generalizing path with
  | h d ih =>
      unfold MessageDescriptor.resolve at h
      split at h
      · obtain rfl := Option.some.inj h
        rw [List.map_nil, List.append_nil]
        exact .message d.mem_all_self
      · cases h
      · rename_i number index rest
        split_ifs at h with h2 hrest h3 h4 h8 hrest
        · obtain ⟨f, hf, rfl⟩ := Option.map_eq_some_iff.1 h
          obtain ⟨i, hi, hf⟩ := elementAt?_eq_some.1 hf
          rw [h2, List.isEmpty_iff.1 hrest, List.map_cons, List.map_singleton, hi]
          exact .field d.mem_all_self hf
        · rw [← d.scope_inside] at h
          obtain ⟨c, hc, h, hpath⟩ := exists_declared 3 h
          have hl := ih c hc h
          rw [hpath, Declaration.path_inside, List.append_assoc] at hl
          rw [h3, List.map_cons, List.map_cons]
          have hall : c.all ⊆ d.all :=
            Declaration.all_subset_of_mem (Declaration.mem_all_of_mem_children hc)
          exact hl.mono hall (flatMap_subset hall) (List.Subset.refl _)
        · rw [← d.scope_inside] at h
          obtain ⟨e, he, h, hpath⟩ := exists_declared 4 h
          have hl := EnumDescriptor.locates_of_resolve h
          rw [hpath, Declaration.path_inside, List.append_assoc] at hl
          rw [h4, List.map_cons, List.map_cons]
          refine hl.mono (List.nil_subset _) ?_ (List.Subset.refl _)
          exact List.cons_subset.2 ⟨List.mem_flatMap.2 ⟨d, d.mem_all_self, he⟩, List.nil_subset _⟩
        · obtain ⟨o, ho, rfl⟩ := Option.map_eq_some_iff.1 h
          obtain ⟨i, hi, ho⟩ := elementAt?_eq_some.1 ho
          rw [h8, List.isEmpty_iff.1 hrest, List.map_cons, List.map_singleton, hi]
          exact .oneOf d.mem_all_self ho

/-- What stands below a message: itself and its parts, its enums, and what stands below its
children. -/
theorem locates_all_iff {p : List Int} :
    Locates d.all (d.all.flatMap Declaration.enums) [] p target
      ↔ Locates [d] [] [] p target ∨ (∃ e ∈ d.enums, Locates [] [e] [] p target) ∨
        ∃ c ∈ d.children, Locates c.all (c.all.flatMap Declaration.enums) [] p target := by
  have hself : Locates ([d] ++ []) ([] ++ d.enums) ([] ++ []) p target
      ↔ Locates [d] [] [] p target ∨ Locates [] d.enums [] p target := Locates.append_iff
  rw [List.append_nil, List.append_nil, List.nil_append, Locates.enums_iff] at hself
  have hbelow : Locates ([d] ++ d.children.flatMap Declaration.all)
      (d.enums ++ d.children.flatMap fun c => c.all.flatMap Declaration.enums) ([] ++ []) p target
      ↔ _ ∨ _ := Locates.append_iff
  rw [List.nil_append, hself, Locates.flatMap_iff, or_assoc] at hbelow
  rw [Declaration.all_eq, List.flatMap_cons, List.flatMap_assoc, ← List.singleton_append, hbelow]

theorem resolve_of_locates {p : List Int}
    (h : Locates d.all (d.all.flatMap Declaration.enums) [] p target) :
    Leads d.path (d.item.resolve d.id) p target := by
  induction d using Declaration.induction with
  | h d ih =>
      rcases locates_all_iff.1 h with h | ⟨e, he, h⟩ | ⟨c, hc, h⟩
      · cases h with
        | message hd =>
            obtain rfl := List.mem_singleton.1 hd
            exact Leads.self rfl
        | field hd hf =>
            obtain rfl := List.mem_singleton.1 hd
            exact Leads.part (n := 2) hf (fun _ => rfl) rfl
        | oneOf hd ho =>
            obtain rfl := List.mem_singleton.1 hd
            exact Leads.part (n := 8) ho (fun _ => rfl) rfl
        | enum hd | enumValue hd _ | service hd | method hd _ => cases hd
      · refine (EnumDescriptor.resolve_of_locates h).of_declared (p := d.inside) (n := 4) he
          fun index rest => ?_
        rw [d.scope_inside]
        rfl
      · refine (ih c hc h).of_declared (p := d.inside) (n := 3) hc fun index rest => ?_
        rw [d.scope_inside]
        rfl

end MessageDescriptor

namespace FileDescriptor

/-- The file declares the target, or the element that has it as a part, at that path. -/
def Declares (file : FileDescriptor) : List Int → DocTarget → Prop :=
  Locates file.declaredMessages file.declaredEnums file.declaredServices

variable {file : FileDescriptor}

theorem declares_iff {p : List Int} :
    file.Declares p target
      ↔ (∃ d ∈ file.topMessages, Locates d.all (d.all.flatMap Declaration.enums) [] p target) ∨
        (∃ d ∈ file.topEnums, Locates [] [d] [] p target) ∨
        ∃ d ∈ file.declaredServices, Locates [] [] [d] p target := by
  have hservices : Locates (file.declaredMessages ++ []) (file.declaredEnums ++ [])
      ([] ++ file.declaredServices) p target ↔ _ ∨ _ := Locates.append_iff
  have henums : Locates ([] ++ file.declaredMessages)
      (file.topEnums ++ file.declaredMessages.flatMap Declaration.enums) ([] ++ []) p target
      ↔ _ ∨ _ := Locates.append_iff
  rw [List.append_nil, List.append_nil, List.nil_append, Locates.services_iff] at hservices
  rw [List.nil_append, List.nil_append, Locates.enums_iff, declaredMessages, List.flatMap_assoc,
    Locates.flatMap_iff, ← List.flatMap_assoc, ← declaredMessages, ← declaredEnums] at henums
  rw [Declares, hservices, henums, or_assoc, or_left_comm]

theorem resolve_of_declares {p : List Int} (h : file.Declares p target) :
    Leads [] file.resolve p target := by
  rcases declares_iff.1 h with ⟨d, hd, h⟩ | ⟨d, hd, h⟩ | ⟨d, hd, h⟩
  · exact (MessageDescriptor.resolve_of_locates h).of_declared (n := 4) hd fun _ _ => rfl
  · exact (EnumDescriptor.resolve_of_locates h).of_declared (n := 5) hd fun _ _ => rfl
  · exact (ServiceDescriptor.resolve_of_locates h).of_declared (n := 6) hd fun _ _ => rfl

/-- **A path of a file resolves to a target if and only if the file declares it at that path.** -/
theorem resolve_eq_some_iff :
    file.resolve path = some target ↔ file.Declares (path.map Int32.toInt) target := by
  constructor
  · intro h
    rw [declares_iff]
    unfold FileDescriptor.resolve at h
    split at h
    · rename_i number index rest
      split_ifs at h with h4 h5 h6
      · obtain ⟨d, hd, h, hpath⟩ := exists_declared (p := file.place) 4 h
        have hl := MessageDescriptor.locates_of_resolve h
        rw [hpath] at hl
        rw [h4]
        exact Or.inl ⟨d, hd, hl⟩
      · obtain ⟨d, hd, h, hpath⟩ := exists_declared (p := file.place) 5 h
        have hl := EnumDescriptor.locates_of_resolve h
        rw [hpath] at hl
        rw [h5]
        exact Or.inr (Or.inl ⟨d, hd, hl⟩)
      · obtain ⟨d, hd, h, hpath⟩ := exists_declared (p := file.place) 6 h
        have hl := ServiceDescriptor.locates_of_resolve h
        rw [hpath] at hl
        rw [h6]
        exact Or.inr (Or.inr ⟨d, hd, hl⟩)
    · cases h
  · intro h
    obtain ⟨q, hpath, hq⟩ := resolve_of_declares h
    exact hq path hpath

end FileDescriptor

/-! ## One path for each target -/

/-- The parts of an element have different names. -/
structure DistinctMembers (files : List FileDescriptor) : Prop where
  fields : ∀ d ∈ files.flatMap FileDescriptor.declaredMessages, (d.item.fields.map nameOf).Nodup
  oneOfs : ∀ d ∈ files.flatMap FileDescriptor.declaredMessages,
    (d.item.oneofDecls.map nameOf).Nodup
  values : ∀ d ∈ files.flatMap FileDescriptor.declaredEnums, (d.item.values.map nameOf).Nodup
  methods : ∀ d ∈ files.flatMap FileDescriptor.declaredServices,
    (d.item.methods.map nameOf).Nodup

/-- Where a target stands, by its kind. -/
theorem Locates.target_cases {ms : List (Declaration MessageDescriptor)}
    {es : List (Declaration EnumDescriptor)} {ss : List (Declaration ServiceDescriptor)}
    {p : List Int} (h : Locates ms es ss p target) :
    match target with
    | .message id => ∃ d ∈ ms, d.id = id ∧ p = d.path
    | .field id name => ∃ d ∈ ms, d.id = id ∧ ∃ (i : Nat) (f : _), d.item.fields[i]? = some f ∧
        Identifier.child d.id (nameOf f) = name ∧ p = d.path ++ [2, (i : Int)]
    | .oneOf id name => ∃ d ∈ ms, d.id = id ∧ ∃ (i : Nat) (o : _),
        d.item.oneofDecls[i]? = some o ∧
        Identifier.child d.id (nameOf o) = name ∧ p = d.path ++ [8, (i : Int)]
    | .enum id => ∃ d ∈ es, d.id = id ∧ p = d.path
    | .enumValue id name => ∃ d ∈ es, d.id = id ∧ ∃ (i : Nat) (v : _),
        d.item.values[i]? = some v ∧ nameOf v = name ∧ p = d.path ++ [2, (i : Int)]
    | .service id => ∃ d ∈ ss, d.id = id ∧ p = d.path
    | .method id name => ∃ d ∈ ss, d.id = id ∧ ∃ (i : Nat) (m : _),
        d.item.methods[i]? = some m ∧ nameOf m = name ∧ p = d.path ++ [2, (i : Int)] := by
  cases h with
  | message hd => exact ⟨_, hd, rfl, rfl⟩
  | field hd hf => exact ⟨_, hd, rfl, _, _, hf, rfl, rfl⟩
  | oneOf hd ho => exact ⟨_, hd, rfl, _, _, ho, rfl, rfl⟩
  | enum hd => exact ⟨_, hd, rfl, rfl⟩
  | enumValue hd hv => exact ⟨_, hd, rfl, _, _, hv, rfl, rfl⟩
  | service hd => exact ⟨_, hd, rfl, rfl⟩
  | method hd hm => exact ⟨_, hd, rfl, _, _, hm, rfl, rfl⟩

/-- Items of different names have one index for each name. -/
theorem index_unique {α : Type} [Named α] {items : List α} {i j : Nat} {a b : α}
    (hnd : (items.map nameOf).Nodup) (ha : items[i]? = some a) (hb : items[j]? = some b)
    (hab : nameOf a = nameOf b) : i = j := by
  have hi : (items.map nameOf)[i]? = some (nameOf a) := by rw [List.getElem?_map, ha]; rfl
  have hj : (items.map nameOf)[j]? = some (nameOf b) := by rw [List.getElem?_map, hb]; rfl
  refine (List.getElem?_inj ?_ hnd).1 (hi.trans (hab ▸ hj.symm))
  exact (List.getElem?_eq_some_iff.1 hi).1

/-- **A target is declared at one path.** -/
theorem FileDescriptor.Declares.path_unique {files : List FileDescriptor} (hids : DistinctIds files)
    (hmembers : DistinctMembers files) {file : FileDescriptor} (hfile : file ∈ files)
    {p p' : List Int} (h : file.Declares p target) (h' : file.Declares p' target) : p = p' := by
  have hm : ∀ d ∈ file.declaredMessages, d ∈ files.flatMap declaredMessages := fun d hd =>
    List.mem_flatMap.2 ⟨file, hfile, hd⟩
  have he : ∀ d ∈ file.declaredEnums, d ∈ files.flatMap declaredEnums := fun d hd =>
    List.mem_flatMap.2 ⟨file, hfile, hd⟩
  have hs : ∀ d ∈ file.declaredServices, d ∈ files.flatMap declaredServices := fun d hd =>
    List.mem_flatMap.2 ⟨file, hfile, hd⟩
  have h := h.target_cases
  have h' := h'.target_cases
  cases target with
  | message id =>
      obtain ⟨d, hd, hid, rfl⟩ := h
      obtain ⟨d', hd', hid', rfl⟩ := h'
      rw [List.inj_on_of_nodup_map hids.messages (hm d hd) (hm d' hd') (hid.trans hid'.symm)]
  | field id field =>
      obtain ⟨d, hd, hid, i, f, hf, hname, rfl⟩ := h
      obtain ⟨d', hd', hid', j, f', hf', hname', rfl⟩ := h'
      obtain rfl := List.inj_on_of_nodup_map hids.messages (hm d hd) (hm d' hd')
        (hid.trans hid'.symm)
      have hff := Identifier.child_injective (hname.trans hname'.symm)
      rw [index_unique (hmembers.fields d (hm d hd)) hf hf' hff]
  | oneOf id oneOf =>
      obtain ⟨d, hd, hid, i, o, ho, hname, rfl⟩ := h
      obtain ⟨d', hd', hid', j, o', ho', hname', rfl⟩ := h'
      obtain rfl := List.inj_on_of_nodup_map hids.messages (hm d hd) (hm d' hd')
        (hid.trans hid'.symm)
      have hoo := Identifier.child_injective (hname.trans hname'.symm)
      rw [index_unique (hmembers.oneOfs d (hm d hd)) ho ho' hoo]
  | enum id =>
      obtain ⟨d, hd, hid, rfl⟩ := h
      obtain ⟨d', hd', hid', rfl⟩ := h'
      rw [List.inj_on_of_nodup_map hids.enums (he d hd) (he d' hd') (hid.trans hid'.symm)]
  | enumValue id value =>
      obtain ⟨d, hd, hid, i, v, hv, hname, rfl⟩ := h
      obtain ⟨d', hd', hid', j, v', hv', hname', rfl⟩ := h'
      obtain rfl := List.inj_on_of_nodup_map hids.enums (he d hd) (he d' hd') (hid.trans hid'.symm)
      rw [index_unique (hmembers.values d (he d hd)) hv hv' (hname.trans hname'.symm)]
  | service id =>
      obtain ⟨d, hd, hid, rfl⟩ := h
      obtain ⟨d', hd', hid', rfl⟩ := h'
      rw [List.inj_on_of_nodup_map hids.services (hs d hd) (hs d' hd') (hid.trans hid'.symm)]
  | method id method =>
      obtain ⟨d, hd, hid, i, m, hm, hname, rfl⟩ := h
      obtain ⟨d', hd', hid', j, m', hm', hname', rfl⟩ := h'
      obtain rfl := List.inj_on_of_nodup_map hids.services (hs d hd) (hs d' hd')
        (hid.trans hid'.symm)
      rw [index_unique (hmembers.methods d (hs d hd)) hm hm' (hname.trans hname'.symm)]

/-! ## One file for each target -/

/-- The target is an element with one of the identifiers, or a part of it. -/
def DocTarget.Within (messages enums services : List String) : DocTarget → Prop
  | .message id | .field id _ | .oneOf id _ => id ∈ messages
  | .enum id | .enumValue id _ => id ∈ enums
  | .service id | .method id _ => id ∈ services

theorem DocTarget.Within.services_mono {ms es ss ss' : List String} (h : target.Within [] [] ss)
    (hss : ss ⊆ ss') : target.Within ms es ss' := by
  cases target with
  | message id | field id _ | oneOf id _ | enum id | enumValue id _ => cases h
  | service id | method id _ => exact hss h

namespace FileDescriptor

/-- The target is an element that the file declares, or a part of it, existing or not. -/
def Owns (file : FileDescriptor) (target : DocTarget) : Prop :=
  target.Within (file.declaredMessages.map Declaration.id) (file.declaredEnums.map Declaration.id)
    (file.declaredServices.map Declaration.id)

theorem Declares.owns {file : FileDescriptor} {p : List Int} (h : file.Declares p target) :
    file.Owns target := by
  cases h with
  | message hd | field hd _ | oneOf hd _ | enum hd | enumValue hd _ | service hd | method hd _ =>
      exact List.mem_map_of_mem hd

end FileDescriptor

/-- No target is owned by two files. -/
theorem DistinctIds.pairwise {files : List FileDescriptor} (h : DistinctIds files) :
    files.Pairwise fun f g => ∀ target, f.Owns target → ¬ g.Owns target := by
  obtain ⟨hm, he, hs⟩ := h
  rw [List.map_flatMap, List.nodup_flatMap] at hm he hs
  refine (hm.2.and (he.2.and hs.2)).imp ?_
  rintro f g ⟨hm, he, hs⟩ target hf hg
  cases target with
  | message id | field id _ | oneOf id _ => exact hm hf hg
  | enum id | enumValue id _ => exact he hf hg
  | service id | method id _ => exact hs hf hg

/-- A file that is not among some files does not own what one of these owns. -/
theorem DistinctIds.not_owns {files : List FileDescriptor} (h : DistinctIds files)
    {f g : FileDescriptor} (hf : f ∈ files) (hg : g ∈ files) (hne : f ≠ g) (hown : f.Owns target) :
    ¬ g.Owns target := by
  have : Std.Symm fun f g : FileDescriptor => ∀ target, f.Owns target → ¬ g.Owns target :=
    ⟨fun _ _ hfg target hg hf => hfg target hf hg⟩
  exact h.pairwise.forall hf hg hne target hown

theorem DistinctIds.not_owns_of_notMem {files targets : List FileDescriptor}
    (h : DistinctIds files) (hsub : targets ⊆ files) {file : FileDescriptor} (hfile : file ∈ files)
    (hnot : file ∉ targets) (hown : file.Owns target) : ∀ f ∈ targets, ¬ f.Owns target := by
  intro f hf
  refine h.not_owns hfile (hsub hf) ?_ hown
  rintro rfl
  exact hnot hf

end ClientGen
