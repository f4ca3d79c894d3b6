import ClientGen.Proofs.Comments
import ClientGen.Proofs.Emission

/-!
# Groups of fields

A field descriptor has the index of its group, which may be absent or out of range, or be that of an
artificial group around an optional field.  Registration fills the groups by these indexes and drops
the empty ones, and the view looks the members up again by identifier.  Here both are compared with
the declaration.

* `FieldDescriptor.MemberOf`, `FieldDescriptor.Grouped` — the field is a real member of the group at
  an index, or of some group.
* `MessageDescriptor.perm_fields` — each declared field is ungrouped or in one group.
* `Message.GroupedAs` — the message has the fields and the groups of its declaration.
* `MessageView.Splits` — the record shows each field once, among the basic fields or in a group.
-/

namespace ClientGen

/-! ## Members by declaration -/

namespace FieldDescriptor

variable {f : FieldDescriptor} {groups i j : Nat}

/-- The field is a member of the group at that index, in a message that declares that many groups.
A field that is made optional by an artificial group is a member of none. -/
def MemberOf (f : FieldDescriptor) (groups i : Nat) : Prop :=
  f.oneofIndex.map Int32.toInt = some (i : Int) ∧ i < groups ∧ f.proto3Optional ≠ some true

/-- The index of the field is one of a declared group, and the group is no artificial one around an
optional field. -/
def Grouped (f : FieldDescriptor) (groups : Nat) : Prop :=
  (∃ n ∈ f.oneofIndex, 0 ≤ n.toInt ∧ n.toInt < groups) ∧ f.proto3Optional ≠ some true

instance : Decidable (f.MemberOf groups i) := inferInstanceAs (Decidable (_ ∧ _ ∧ _))

instance : Decidable (f.Grouped groups) := inferInstanceAs (Decidable (_ ∧ _))

theorem MemberOf.index_unique (hi : f.MemberOf groups i) (hj : f.MemberOf groups j) : i = j := by
  have h := hi.1.symm.trans hj.1
  exact Int.ofNat_inj.1 (Option.some.inj h)

theorem grouped_iff : f.Grouped groups ↔ ∃ i < groups, f.MemberOf groups i := by
  constructor
  · rintro ⟨⟨n, hn, hpos, hlt⟩, hreal⟩
    have hcast : ((n.toInt.toNat : Nat) : Int) = n.toInt := Int.toNat_of_nonneg hpos
    have hbound : n.toInt.toNat < groups := by omega
    refine ⟨n.toInt.toNat, hbound, ?_, hbound, hreal⟩
    rw [Option.mem_def.1 hn, Option.map_some, hcast]
  · rintro ⟨i, -, hindex, hbound, hreal⟩
    obtain ⟨n, hn, hcast⟩ := Option.map_eq_some_iff.1 hindex
    exact ⟨⟨n, hn, by omega, by omega⟩, hreal⟩

/-- The index found for a field is that of its group. -/
theorem groupIndex?_eq_some_iff : f.groupIndex? groups = some i ↔ f.MemberOf groups i := by
  unfold groupIndex? MemberOf
  cases hindex : f.oneofIndex with
  | none => simp
  | some n =>
      have hneg : n < 0 ↔ n.toInt < 0 := Int32.lt_iff_toInt_lt
      have hreal : f.proto3Optional.getD false = true ↔ f.proto3Optional = some true := by
        cases f.proto3Optional <;> simp
      simp only [Option.map_some, Option.some.injEq, hneg, hreal]
      by_cases hoptional : f.proto3Optional = some true
      · simp [hoptional]
      · rw [if_neg hoptional]
        simp only [hoptional, ne_eq, not_false_eq_true, and_true]
        split
        · simp only [reduceCtorEq, false_iff]
          omega
        · split
          · simp only [Option.some.injEq]
            omega
          · simp only [reduceCtorEq, false_iff]
            omega

theorem isSome_groupIndex?_iff : (f.groupIndex? groups).isSome = true ↔ f.Grouped groups := by
  rw [Option.isSome_iff_exists, grouped_iff]
  constructor
  · rintro ⟨i, hi⟩
    have hmember := groupIndex?_eq_some_iff.1 hi
    exact ⟨i, hmember.2.1, hmember⟩
  · rintro ⟨i, -, hmember⟩
    exact ⟨i, groupIndex?_eq_some_iff.2 hmember⟩

end FieldDescriptor

/-- A list is its elements in no class, then those in each class, if no element is in two. -/
theorem perm_filter_classes {α : Type} {P : α → Nat → Prop} [∀ a i, Decidable (P a i)]
    (hunique : ∀ a i j, P a i → P a j → i = j) (l : List α) (n : Nat) :
    ((l.filter fun a => decide (¬∃ i < n, P a i)) ++
      (List.range n).flatMap fun i => l.filter fun a => decide (P a i)).Perm l := by
  induction n with
  | zero => simp
  | succ n ih =>
      -- what is in none of the first `n` classes is in the next one or in none of `n + 1`
      have hnext : l.filter (fun a => decide (P a n))
          = (l.filter fun a => decide (¬∃ i < n, P a i)).filter fun a => decide (P a n) := by
        rw [List.filter_filter]
        refine List.filter_congr fun a _ => ?_
        by_cases hn : P a n
        · have hnone : ¬∃ i < n, P a i := fun ⟨i, hi, hPi⟩ =>
            Nat.ne_of_lt hi (hunique a i n hPi hn)
          simp only [hn, hnone, not_false_eq_true, decide_true, Bool.and_true]
        · simp only [hn, decide_false, Bool.false_and]
      have hrest : l.filter (fun a => decide (¬∃ i < n + 1, P a i))
          = (l.filter fun a => decide (¬∃ i < n, P a i)).filter fun a => !decide (P a n) := by
        rw [List.filter_filter]
        refine List.filter_congr fun a _ => ?_
        simp only [Nat.exists_lt_succ_right, not_or, Bool.decide_and, decide_not, Bool.and_comm]
      rw [List.range_succ, List.flatMap_append, List.flatMap_singleton, hnext, hrest]
      have hsplit := List.perm_append_comm.trans (List.filter_append_perm
        (fun a => decide (P a n)) (l.filter fun a => decide (¬∃ i < n, P a i)))
      have hmoved := (List.perm_append_comm_assoc _ _ _).trans (hsplit.append_left
        ((List.range n).flatMap fun i => l.filter fun a => decide (P a i)))
      exact hmoved.trans (List.perm_append_comm.trans ih)

namespace MessageDescriptor

variable (d : MessageDescriptor)

/-- The fields in the group at an index, in declaration order. -/
def members (i : Nat) : List FieldDescriptor :=
  d.fields.filter fun f => f.MemberOf d.oneofDecls.length i

/-- The fields that are in no group, in declaration order. -/
def ungrouped : List FieldDescriptor :=
  d.fields.filter fun f => ¬f.Grouped d.oneofDecls.length

/-- The declared groups that have members, each with its index, in declaration order. -/
def groups : List (OneofDescriptor × Nat) :=
  d.oneofDecls.zipIdx.filter fun g => !(d.members g.2).isEmpty

/-- **Each field is in no group or in one.**  The fields are those in no group, then those of each
group. -/
theorem perm_fields : (d.ungrouped ++ d.groups.flatMap fun g => d.members g.2).Perm d.fields := by
  have hgroups : (d.groups.flatMap fun g => d.members g.2)
      = (List.range d.oneofDecls.length).flatMap d.members := by
    rw [groups, flatMap_filter_eq fun g _ h => by simpa using h, List.range_eq_range',
      ← List.zipIdx_map_snd 0 d.oneofDecls, List.flatMap_map]
  have h := perm_filter_classes (P := fun f i => f.MemberOf d.oneofDecls.length i)
    (fun _ _ _ hi hj => hi.index_unique hj) d.fields d.oneofDecls.length
  simp only [← FieldDescriptor.grouped_iff] at h
  rw [hgroups]
  exact h

end MessageDescriptor

/-! ## The fields and groups of a message -/

theorem map_eq_of_forall₂ {α β γ : Type} {R : α → β → Prop} {g : α → γ} {k : β → γ} {l : List α}
    {l' : List β} (h : ∀ a b, R a b → k b = g a) (hl : List.Forall₂ R l l') :
    l'.map k = l.map g := by
  induction hl with
  | nil => rfl
  | cons hab _ ih => rw [List.map_cons, List.map_cons, ih, h _ _ hab]

theorem forall₂_trans {α β γ : Type} {R : α → β → Prop} {S : β → γ → Prop} {T : α → γ → Prop}
    {as : List α} {bs : List β} {cs : List γ} (h : ∀ a b c, R a b → S b c → T a c)
    (hR : List.Forall₂ R as bs) (hS : List.Forall₂ S bs cs) : List.Forall₂ T as cs := by
  induction hR generalizing cs with
  | nil => cases hS; exact .nil
  | cons hab _ ih =>
      cases hS with
      | cons hbc hS => exact .cons (h _ _ _ hab hbc) (ih hS)

/-- The field is named as declared, and says that it is a member of a group when it is one. -/
structure Field.PlacedAs (messageId : String) (groups : Nat) (d : FieldDescriptor) (f : Field) :
    Prop where
  id : f.id = Identifier.child messageId (nameOf d)
  name : f.name = nameOf d
  isOneOf : f.isOneOf = true ↔ d.Grouped groups

/-- The group is named as declared, and lists the identifiers of its members. -/
structure OneOf.HoldsMembers (messageId : String) (members : List FieldDescriptor)
    (d : OneofDescriptor) (o : OneOf) : Prop where
  id : o.id = Identifier.child messageId (nameOf d)
  name : o.name = nameOf d
  parent : o.parent = messageId
  fields : o.fields = members.map fun f => Identifier.child messageId (nameOf f)

/-- The message has one field for each declared one, and one group for each declared group with
members, in the order of declaration. -/
structure Message.GroupedAs (d : MessageDescriptor) (m : Message) : Prop where
  fields : List.Forall₂ (Field.PlacedAs m.id d.oneofDecls.length) d.fields m.fields
  oneOfs : List.Forall₂ (fun g => OneOf.HoldsMembers m.id (d.members g.2) g.1) d.groups m.oneOfs

theorem Field.placedAs_ofDescriptor (t : SymbolTable) (messageId : String) (groups : Nat)
    (d : FieldDescriptor) :
    Field.PlacedAs messageId groups d (Field.ofDescriptor t messageId groups d) where
  id := Field.id_ofDescriptor ..
  name := by
    rw [Field.ofDescriptor, Field.withWireType]
    split <;> rfl
  isOneOf := by
    rw [← FieldDescriptor.isSome_groupIndex?_iff, Field.ofDescriptor, Field.withWireType]
    split <;> rfl

theorem groupMembers_eq (messageId : String) (d : MessageDescriptor) (i : Nat) :
    groupMembers messageId d.oneofDecls.length d.fields i
      = (d.members i).map fun f => Identifier.child messageId (nameOf f) := by
  simp only [groupMembers, MessageDescriptor.members, FieldDescriptor.groupIndex?_eq_some_iff]
  rfl

theorem Message.groupedAs_ofDescriptor (t : SymbolTable) (d : MessageDescriptor)
    (id package : String) (parent : Option String) :
    (Message.ofDescriptor t d id package parent).GroupedAs d where
  fields := List.forall₂_map_right_iff.2 (List.forall₂_same.2 fun f _ =>
    Field.placedAs_ofDescriptor t id d.oneofDecls.length f)
  oneOfs := by
    have hempty : ∀ g : OneofDescriptor × Nat,
        (groupMembers id d.oneofDecls.length d.fields g.2).isEmpty = (d.members g.2).isEmpty := by
      intro g
      rw [groupMembers_eq, List.isEmpty_map]
    show List.Forall₂ _ d.groups (OneOf.ofMessage id d)
    rw [OneOf.ofMessage, List.filter_map, List.forall₂_map_right_iff, MessageDescriptor.groups]
    simp only [Function.comp_def, hempty]
    exact List.forall₂_same.2 fun g _ => ⟨rfl, rfl, rfl, groupMembers_eq id d g.2⟩

/-- Comments change no group. -/
theorem Message.GroupedAs.of_undocumented {d : MessageDescriptor} {m : Message}
    (h : m.undocumented.GroupedAs d) : m.GroupedAs d where
  fields := (List.forall₂_map_right_iff.1 h.fields).imp fun _ _ hf => ⟨hf.id, hf.name, hf.isOneOf⟩
  oneOfs := (List.forall₂_map_right_iff.1 h.oneOfs).imp fun _ _ ho =>
    ⟨ho.id, ho.name, ho.parent, ho.fields⟩

/-- When names are distinct, each field is found by the identifier of its declaration. -/
theorem Message.GroupedAs.exists_find {d : MessageDescriptor} {m : Message} (h : m.GroupedAs d)
    (hnames : (d.fields.map nameOf).Nodup) :
    ∃ find : FieldDescriptor → Field, m.fields = d.fields.map find ∧
      ∀ f ∈ d.fields, m.field? (Identifier.child m.id (nameOf f)) = some (find f) ∧
        (find f).PlacedAs m.id d.oneofDecls.length f := by
  have hids : (m.fields.map Field.id).Nodup := by
    have hspell : m.fields.map Field.id = (d.fields.map nameOf).map (Identifier.child m.id) :=
      (map_eq_of_forall₂ (fun _ _ hf => hf.id) h.fields).trans List.map_map.symm
    rw [hspell]
    exact hnames.map fun _ _ => Identifier.child_injective
  have hfound : List.Forall₂ (fun f b => m.field? (Identifier.child m.id (nameOf f)) = some b ∧
      b.PlacedAs m.id d.oneofDecls.length f) d.fields m.fields := by
    refine List.Forall₂.flip (((List.forall₂_and_left _ _).2
      ⟨fun _ hb => hb, h.fields.flip⟩).imp ?_)
    rintro b f ⟨hb, hf⟩
    exact ⟨hf.id ▸ find?_of_nodup hids hb, hf⟩
  have hmap : m.fields
      = d.fields.map fun f => (m.field? (Identifier.child m.id (nameOf f))).getD default := by
    refine (List.map_id _).symm.trans (map_eq_of_forall₂ (fun f b hb => ?_) hfound)
    rw [hb.1]
    rfl
  refine ⟨_, hmap, ?_⟩
  rw [hmap] at hfound
  exact List.forall₂_same.1 (List.forall₂_map_right_iff.1 hfound)

/-- Registering a message stores it with the fields and groups of its descriptor. -/
theorem SymbolTable.message?_registerMessage (t : SymbolTable) (d : MessageDescriptor)
    (id package : String) (parent : Option String) :
    ∃ u, (t.registerMessage d id package parent).message? id
      = some (Message.ofDescriptor u d id package parent) := by
  obtain ⟨name, fields, nestedTypes, enumTypes, options, oneofDecls⟩ := d
  rw [registerMessage]
  exact ⟨_, (message?_addMessage ..).trans (if_pos rfl)⟩

/-! ## The record of a message -/

/-- The record shows each field of the declaration in one place. -/
structure MessageView.Splits (d : MessageDescriptor) (v : MessageView) : Prop where
  fields : v.fields.map (·.name) = d.fields.map nameOf
  basicFields : v.basicFields.map (·.name) = d.ungrouped.map nameOf
  oneOfs : List.Forall₂ (fun g o => o.name = nameOf g.1 ∧
    o.fields.map (·.name) = (d.members g.2).map nameOf) d.groups v.oneOfs
  perm : (v.basicFields ++ v.oneOfs.flatMap (·.fields)).Perm v.fields
  place : ∀ f ∈ v.fields, (f ∈ v.basicFields ∧ ∀ o ∈ v.oneOfs, f ∉ o.fields) ∨
    (f ∉ v.basicFields ∧ ∃! i : Fin v.oneOfs.length, f ∈ v.oneOfs[i].fields)

/-- A field of a record without repetitions is in one place, if all places together have the fields
of the record. -/
theorem MessageView.place_of_perm {v : MessageView}
    (hperm : (v.basicFields ++ v.oneOfs.flatMap (·.fields)).Perm v.fields)
    (hnd : v.fields.Nodup) : ∀ f ∈ v.fields,
      (f ∈ v.basicFields ∧ ∀ o ∈ v.oneOfs, f ∉ o.fields) ∨
        (f ∉ v.basicFields ∧ ∃! i : Fin v.oneOfs.length, f ∈ v.oneOfs[i].fields) := by
  intro f hf
  obtain ⟨-, hgroups, hdisjoint⟩ := List.nodup_append'.1 (hperm.nodup_iff.2 hnd)
  have hapart := List.pairwise_iff_getElem.1 (List.nodup_flatMap.1 hgroups).2
  rcases List.mem_append.1 (hperm.mem_iff.2 hf) with hbasic | hgroup
  · exact Or.inl ⟨hbasic, fun o ho hfo => hdisjoint hbasic (List.mem_flatMap.2 ⟨o, ho, hfo⟩)⟩
  · refine Or.inr ⟨fun hbasic => hdisjoint hbasic hgroup, ?_⟩
    obtain ⟨o, ho, hfo⟩ := List.mem_flatMap.1 hgroup
    obtain ⟨i, hi, rfl⟩ := List.getElem_of_mem ho
    refine ⟨⟨i, hi⟩, hfo, fun j hj => Fin.ext ?_⟩
    rcases Nat.lt_trichotomy j i with hlt | heq | hgt
    · exact absurd hfo (hapart j i j.isLt hi hlt hj)
    · exact heq
    · exact absurd hj (hapart i j hi j.isLt hgt hfo)

/-- The parts of the record are views of declared fields, given by one function. -/
structure MessageView.ShowsFields (d : MessageDescriptor) (view : FieldDescriptor → FieldView)
    (v : MessageView) : Prop where
  name : ∀ f ∈ d.fields, (view f).name = nameOf f
  fields : v.fields = d.fields.map view
  basicFields : v.basicFields = d.ungrouped.map view
  oneOfs : List.Forall₂ (fun g o => o.name = nameOf g.1 ∧ o.fields = (d.members g.2).map view)
    d.groups v.oneOfs

theorem MessageView.ShowsFields.splits {d : MessageDescriptor}
    {view : FieldDescriptor → FieldView} {v : MessageView} (h : v.ShowsFields d view)
    (hnames : (d.fields.map nameOf).Nodup) : v.Splits d := by
  have hname : ∀ ds : List FieldDescriptor, ds ⊆ d.fields →
      (ds.map view).map (·.name) = ds.map nameOf := by
    intro ds hds
    rw [List.map_map]
    exact List.map_congr_left fun f hf => h.name f (hds hf)
  have hfields : v.fields.map (·.name) = d.fields.map nameOf := by
    rw [h.fields]
    exact hname d.fields (List.Subset.refl _)
  have hperm : (v.basicFields ++ v.oneOfs.flatMap (·.fields)).Perm v.fields := by
    have hflat : v.oneOfs.flatMap (·.fields)
        = (d.groups.flatMap fun g => d.members g.2).map view := by
      rw [List.flatMap_def, map_eq_of_forall₂ (fun _ _ h => h.2) h.oneOfs, List.map_flatMap]
      rfl
    rw [h.fields, h.basicFields, hflat, ← List.map_append]
    exact d.perm_fields.map view
  have hnd : v.fields.Nodup := List.Nodup.of_map (·.name) (hfields ▸ hnames)
  refine ⟨hfields, ?_, h.oneOfs.imp fun g o ho => ⟨ho.1, ?_⟩, hperm, v.place_of_perm hperm hnd⟩
  · rw [h.basicFields]
    exact hname d.ungrouped List.filter_sublist.subset
  · rw [ho.2]
    exact hname (d.members g.2) List.filter_sublist.subset

namespace Codec

variable {c : Codec} {t : SymbolTable} {d : MessageDescriptor} {m : Message}

theorem messageViewWith_ok {vs : List MessageView} {v : MessageView}
    (h : c.messageViewWith t m vs = .ok v) :
    v.fields = m.fields.map (c.fieldView t) ∧
      v.basicFields = (m.fields.filter (!·.isOneOf)).map (c.fieldView t) ∧
      List.Forall₂ (fun o o' => o'.name = o.name ∧ o'.fields = (o.members m).map (c.fieldView t))
        m.oneOfs v.oneOfs := by
  rw [eq_of_messageViewWith h]
  exact ⟨rfl, rfl, List.forall₂_map_right_iff.2 (List.forall₂_same.2 fun _ _ => ⟨rfl, rfl⟩)⟩

/-- The members of a group are looked up by identifier, and found in declaration order. -/
theorem members_eq {find : FieldDescriptor → Field} {ds : List FieldDescriptor}
    {decl : OneofDescriptor} {o : OneOf} (ho : o.HoldsMembers m.id ds decl)
    (hfind : ∀ f ∈ ds, m.field? (Identifier.child m.id (nameOf f)) = some (find f)) :
    o.members m = ds.map find := by
  rw [OneOf.members, ho.fields, List.filterMap_map, ← List.filterMap_eq_map]
  exact List.filterMap_congr fun f hf => hfind f hf

/-- The parts of a record show fields of the declaration, each in the same way. -/
theorem exists_showsFields (hm : m.GroupedAs d) (hnames : (d.fields.map nameOf).Nodup)
    {vs : List MessageView} {v : MessageView} (hv : c.messageViewWith t m vs = .ok v) :
    ∃ view, v.ShowsFields d view := by
  obtain ⟨hfields, hbasic, hgroups⟩ := messageViewWith_ok hv
  obtain ⟨find, hfind, hplaced⟩ := hm.exists_find hnames
  refine ⟨fun f => c.fieldView t (find f), fun f hf => (hplaced f hf).2.name, ?_, ?_, ?_⟩
  · rw [hfields, hfind, List.map_map]
    rfl
  · rw [hbasic, hfind, List.filter_map, List.map_map]
    refine congrArg (List.map _) (List.filter_congr fun f hf => ?_)
    have hiff := (hplaced f hf).2.isOneOf
    rw [Function.comp_apply, Bool.eq_iff_iff, decide_eq_true_iff, ← hiff, Bool.not_eq_true',
      Bool.not_eq_true]
  · refine forall₂_trans (fun g o o' ho ho' => ⟨ho'.1.trans ho.name, ?_⟩) hm.oneOfs hgroups
    rw [ho'.2, members_eq ho fun f hf => (hplaced f (List.mem_of_mem_filter hf)).1, List.map_map]
    rfl

/-- **A record shows each field in one place**, when the names of the fields are distinct. -/
theorem splits_of_messageViewWith (hm : m.GroupedAs d) (hnames : (d.fields.map nameOf).Nodup)
    {vs : List MessageView} {v : MessageView} (hv : c.messageViewWith t m vs = .ok v) :
    v.Splits d := by
  obtain ⟨view, hshows⟩ := exists_showsFields hm hnames hv
  exact hshows.splits hnames

theorem splits_of_messageViewWithin (hm : m.GroupedAs d) (hnames : (d.fields.map nameOf).Nodup)
    {levels : Nat} {v : MessageView} (hv : c.messageViewWithin t levels m = .ok v) :
    v.Splits d := by
  obtain ⟨vs, hvs⟩ := exists_messageViewWith_of_within hv
  exact splits_of_messageViewWith hm hnames hvs

end Codec

/-- **Groups are as declared, and a record shows each field in one place.**  Registering a message
stores it with one field for each declared one, which is marked as a member when its index is one of
a declared group that is not artificial, and with the declared groups that have members.  However
the message is commented later, and with however many levels below it, every codec that shows it
shows each field among the basic fields or in one group, if names are distinct; a codec that can name
groups does show it. -/
theorem SymbolTable.groups_registerMessage (t : SymbolTable) (d : MessageDescriptor)
    (id package : String) (parent : Option String) :
    ∃ m, (t.registerMessage d id package parent).message? id = some m ∧ m.id = id ∧
      m.GroupedAs d ∧
      ∀ (c : Codec) (u : SymbolTable) (levels : Nat) (m' : Message), m'.undocumented = m →
        (c.NamesGroups → ∃ v, c.messageViewWithin u levels m' = .ok v) ∧
        ((d.fields.map nameOf).Nodup → ∀ v, c.messageViewWithin u levels m' = .ok v →
          v.Splits d) := by
  obtain ⟨u, hm⟩ := t.message?_registerMessage d id package parent
  have hgrouped := Message.groupedAs_ofDescriptor u d id package parent
  refine ⟨_, hm, rfl, hgrouped, ?_⟩
  rintro c u levels m' hm'
  refine ⟨fun hc => Codec.exists_messageViewWithin_ok hc u levels m', fun hnames v hv => ?_⟩
  exact Codec.splits_of_messageViewWithin (hm' ▸ hgrouped).of_undocumented hnames hv

/-! ### An example -/

/-- A parcel goes to one of two targets.  The group of its weight is artificial, and two of its
fields have indexes of no group. -/
def parcel : MessageDescriptor where
  name := some "Parcel"
  oneofDecls := [{ name := some "_weight" }, { name := some "target" }]
  fields :=
    [{ name := some "street", oneofIndex := some 1 },
      { name := some "weight", oneofIndex := some 0, proto3Optional := some true },
      { name := some "below", oneofIndex := some (-1) },
      { name := some "locker", oneofIndex := some 1 },
      { name := some "above", oneofIndex := some 2 },
      { name := some "note" }]

theorem parcel_splits :
    (parcel.fields.map nameOf).Nodup ∧
      ∃ m, (SymbolTable.registerMessage {} parcel ".post.Parcel" "post" none).message?
          ".post.Parcel" = some m ∧
        m.GroupedAs parcel ∧
        ∃ v, ({ year := "2024" } : GoCodec).toCodec.messageView {} m = .ok v ∧ v.Splits parcel ∧
          v.basicFields.map (·.name) = ["weight", "below", "above", "note"] ∧
          v.oneOfs.map (fun o => (o.name, o.fields.map (·.name)))
            = [("target", ["street", "locker"])] := by
  have hnames : (parcel.fields.map nameOf).Nodup := by decide
  obtain ⟨m, hm, -, hgrouped, hview⟩ :=
    SymbolTable.groups_registerMessage {} parcel ".post.Parcel" "post" none
  have hblank : m.undocumented = m := by
    obtain ⟨u, hu⟩ := SymbolTable.message?_registerMessage {} parcel ".post.Parcel" "post" none
    rw [Option.some.inj (hm.symm.trans hu)]
    exact Message.undocumented_ofDescriptor ..
  obtain ⟨hsome, hsplits⟩ := hview ({ year := "2024" } : GoCodec).toCodec {} 0 m hblank
  obtain ⟨v, hv⟩ := hsome (GoCodec.namesGroups _)
  have hv' := hsplits hnames v hv
  refine ⟨hnames, m, hm, hgrouped, v, hv, hv', ?_, ?_⟩
  · rw [hv'.basicFields]
    decide
  · rw [map_eq_of_forall₂ (g := fun g => (nameOf g.1, (parcel.members g.2).map nameOf)) ?_
      hv'.oneOfs]
    · decide
    · rintro g o ⟨hname, hfields⟩
      rw [hname, hfields]

end ClientGen
