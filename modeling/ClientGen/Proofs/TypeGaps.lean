import ClientGen.Proofs.Walks

/-!
# Gaps in Go types

A look-up that misses the symbol table gives an empty type.  Slice brackets are left out around an
empty type, but the key and the value of a map are spelled wherever they are, so a map can be
spelled with a part missing.

* `SymbolTable.Misses`, `MeetsMiss` — the type of a field cannot be spelled, or that of a key or a
  value somewhere inside it.
* `GoType`, `GoCodec.HasForm` — the form of the type of a field, with a gap for each miss.
* `GoCodec.fieldType_exact` — the type of a field is the text of its form, which has a gap if and
  only if a miss is met, and is empty if and only if the field itself misses.
-/

namespace ClientGen

open Naming (HasWord)
open Relation (ReflTransGen TransGen)

/-! ## Misses -/

namespace SymbolTable

/-- The type of the field itself cannot be spelled. -/
inductive Misses (t : SymbolTable) (f : Field) : Prop
  /-- There are no types for groups and for undefined fields. -/
  | kind (h : f.kind = .group ∨ f.kind = .undefined)
  /-- The field refers to a message that the table does not have. -/
  | message (hkind : f.kind = .message) (h : t.message? (f.typeId.getD "") = none)
  /-- The field refers to an enum that the table does not have. -/
  | enum (hkind : f.kind = .enum) (h : t.enum? (f.typeId.getD "") = none)
  /-- The field refers to a map entry that is not a pair. -/
  | entry {m : Message} (hkind : f.kind = .message) (hm : t.message? (f.typeId.getD "") = some m)
      (hmap : m.isMap = true) (hpair : m.fields.length ≠ 2)

/-- The type of the field, or of a key or a value met on the way through maps, cannot be spelled. -/
def MeetsMiss (t : SymbolTable) (f : Field) : Prop :=
  ∃ part, ReflTransGen t.PartOf part f ∧ t.Misses part

/-- All messages and enums have a name with a letter or a digit. -/
structure WellNamed (t : SymbolTable) : Prop where
  message : ∀ id m, t.message? id = some m → HasWord m.name
  enum : ∀ id e, t.enum? id = some e → HasWord e.name

variable {t : SymbolTable} {f : Field}

theorem meetsMiss_iff :
    t.MeetsMiss f ↔ t.Misses f ∨ ∃ part ∈ t.mapParts f, t.MeetsMiss part := by
  constructor
  · rintro ⟨missing, hpath, hmisses⟩
    rcases ReflTransGen.cases_tail hpath with rfl | ⟨part, hpath, hpart⟩
    · exact Or.inl hmisses
    · exact Or.inr ⟨part, hpart, missing, hpath, hmisses⟩
  · rintro (hmisses | ⟨part, hpart, missing, hpath, hmisses⟩)
    · exact ⟨f, .refl, hmisses⟩
    · exact ⟨missing, hpath.tail hpart, hmisses⟩

/-- A field that is no map meets no miss but its own. -/
theorem not_meetsMiss_of_flat (h : ¬t.Misses f) (hparts : t.mapParts f = []) : ¬t.MeetsMiss f := by
  rw [meetsMiss_iff, hparts]
  simp [h]

theorem mapParts_of_not_message (h : f.kind ≠ .message) : t.mapParts f = [] := by
  refine List.eq_nil_iff_forall_not_mem.2 fun part hpart => ?_
  exact h (mem_mapParts.1 hpart).1

/-- A field that misses is no map. -/
theorem Misses.mapParts (h : t.Misses f) : t.mapParts f = [] := by
  refine List.eq_nil_iff_forall_not_mem.2 fun part hpart => ?_
  obtain ⟨hkind, m, key, value, hm, hpair, -⟩ := mem_mapParts.1 hpart
  cases h with
  | kind h =>
      rw [hkind] at h
      rcases h with h | h <;> cases h
  | message _ h =>
      rw [h] at hm
      cases hm
  | enum henum _ =>
      rw [hkind] at henum
      cases henum
  | entry _ hm' hmap hlength =>
      obtain rfl := Option.some.inj (hm'.symm.trans hm)
      unfold Message.mapFields? at hpair
      split at hpair
      · rename_i hfields
        rw [hfields] at hlength
        exact hlength rfl
      · cases hpair

end SymbolTable

/-! ## Forms of types -/

/-- The form of a Go type, with a gap where nothing can be spelled. -/
inductive GoType where
  | gap
  /-- A scalar or an enum. -/
  | named (name : String)
  /-- A message. -/
  | pointer (name : String)
  | slice (element : GoType)
  | map (key value : GoType)

namespace GoType

/-- How the form is written. -/
def text : GoType → String
  | .gap => ""
  | .named name => name
  | .pointer name => "*" ++ name
  | .slice element => "[]" ++ element.text
  | .map key value => "map[" ++ key.text ++ "]" ++ value.text

/-- No part is missing, and no name is. -/
def Complete : GoType → Prop
  | .gap => False
  | .named name => name ≠ ""
  | .pointer name => name ≠ ""
  | .slice element => element.Complete
  | .map key value => key.Complete ∧ value.Complete

/-- The form of a field whose single elements have a form. -/
def elementsOf (f : Field) (element : GoType) : GoType :=
  if f.repeated then .slice element else element

theorem complete_elementsOf {f : Field} {element : GoType} :
    (elementsOf f element).Complete ↔ element.Complete := by
  unfold elementsOf
  split <;> rfl

theorem text_elementsOf {f : Field} {element : GoType} (h : element.text ≠ "") :
    (elementsOf f element).text = GoCodec.sliceOf f element.text := by
  rw [GoCodec.sliceOf_of_ne_empty h]
  unfold elementsOf
  split <;> rfl

theorem text_map_ne_empty (key value : GoType) : (map key value).text ≠ "" := by
  simp [text, String.append_eq_empty_iff]

theorem text_pointer_ne_empty (name : String) : (pointer name).text ≠ "" := by
  simp [text, String.append_eq_empty_iff]

end GoType

namespace GoCodec

/-- The form of the type of a field, look-up by look-up.  A field that misses has no type at all,
not even that of a slice. -/
inductive HasForm (c : GoCodec) (t : SymbolTable) : Field → GoType → Prop
  | miss {f : Field} (h : t.Misses f) : HasForm c t f .gap
  | scalar {f : Field} {spelling : String} (h : scalarType? f.kind = some spelling) :
      HasForm c t f (.elementsOf f (.named spelling))
  | enum {f : Field} {e : Enum} (hkind : f.kind = .enum)
      (he : t.enum? (f.typeId.getD "") = some e) :
      HasForm c t f (.elementsOf f (.named (c.enumName t e)))
  | message {f : Field} {m : Message} (hkind : f.kind = .message)
      (hm : t.message? (f.typeId.getD "") = some m) (hmap : m.isMap = false) :
      HasForm c t f (.elementsOf f (.pointer (c.messageName t m)))
  | map {f key value : Field} {keyForm valueForm : GoType}
      (hparts : t.mapParts f = [key, value]) (hkey : HasForm c t key keyForm)
      (hvalue : HasForm c t value valueForm) :
      HasForm c t f (.elementsOf f (.map keyForm valueForm))

variable {c : GoCodec} {t : SymbolTable} {f : Field}

/-- What a field refers to is one of these. -/
theorem field_cases (t : SymbolTable) (f : Field) :
    t.Misses f ∨ (∃ spelling, scalarType? f.kind = some spelling) ∨
      (f.kind = .enum ∧ ∃ e, t.enum? (f.typeId.getD "") = some e) ∨
      (f.kind = .message ∧ ∃ m, t.message? (f.typeId.getD "") = some m ∧ m.isMap = false) ∨
      ∃ key value, t.mapParts f = [key, value] := by
  by_cases hmessage : f.kind = .message
  · cases hm : t.message? (f.typeId.getD "") with
    | none => exact Or.inl (.message hmessage hm)
    | some m =>
        by_cases hmap : m.isMap = true
        · by_cases hpair : m.fields.length = 2
          · obtain ⟨key, value, hfields⟩ := List.length_eq_two.1 hpair
            refine Or.inr (Or.inr (Or.inr (Or.inr ⟨key, value, ?_⟩)))
            simp [SymbolTable.mapParts, hmessage, hm, Message.mapFields?, hmap, hfields]
          · exact Or.inl (.entry hmessage hm hmap hpair)
        · exact Or.inr (Or.inr (Or.inr (Or.inl ⟨hmessage, m, rfl, Bool.eq_false_iff.2 hmap⟩)))
  · by_cases henum : f.kind = .enum
    · cases he : t.enum? (f.typeId.getD "") with
      | none => exact Or.inl (.enum henum he)
      | some e => exact Or.inr (Or.inr (Or.inl ⟨henum, e, rfl⟩))
    · cases hkind : f.kind with
      | message => exact absurd hkind hmessage
      | enum => exact absurd hkind henum
      | group => exact Or.inl (.kind (Or.inl hkind))
      | undefined => exact Or.inl (.kind (Or.inr hkind))
      | _ => exact Or.inr (Or.inl ⟨_, rfl⟩)

/-! ### The text of a form -/

section Texts

variable (c) (spell : Field → String)

theorem elementWith_of_misses (h : t.Misses f) : c.elementWith t spell f = "" := by
  cases h with
  | kind h =>
      rcases h with h | h
      · rw [elementWith, h]
        rfl
      · rw [elementWith, h]
        rfl
  | message hkind h => simp only [elementWith, hkind, scalarType?, h]
  | enum hkind h => simp only [elementWith, hkind, scalarType?, h]
  | @entry m hkind hm hmap hpair =>
      have hnone : m.mapFields? = none := by
        unfold Message.mapFields?
        split
        · rename_i hfields
          rw [hfields] at hpair
          exact absurd rfl hpair
        · rfl
      simp only [elementWith, hkind, scalarType?, hm, hnone, hmap, if_true]

theorem elementWith_of_scalar {spelling : String} (h : scalarType? f.kind = some spelling) :
    c.elementWith t spell f = spelling := by
  rw [elementWith, h]

theorem elementWith_of_enum {e : Enum} (hkind : f.kind = .enum)
    (he : t.enum? (f.typeId.getD "") = some e) : c.elementWith t spell f = c.enumName t e := by
  simp only [elementWith, hkind, scalarType?, he]

theorem elementWith_of_message {m : Message} (hkind : f.kind = .message)
    (hm : t.message? (f.typeId.getD "") = some m) (hmap : m.isMap = false) :
    c.elementWith t spell f = "*" ++ c.messageName t m := by
  have hnone : m.mapFields? = none := by rw [Message.mapFields?, hmap]
  simp only [elementWith, hkind, scalarType?, hm, hnone, hmap, Bool.false_eq_true, if_false]

theorem elementWith_of_map {key value : Field} (h : t.mapParts f = [key, value]) :
    c.elementWith t spell f = "map[" ++ spell key ++ "]" ++ spell value := by
  have hkey : key ∈ t.mapParts f := h ▸ List.mem_cons_self ..
  obtain ⟨hkind, m, key', value', hm, hpair, -⟩ := SymbolTable.mem_mapParts.1 hkey
  have hparts : t.mapParts f = [key', value'] := by
    simp [SymbolTable.mapParts, hkind, hm, hpair]
  cases h.symm.trans hparts
  simp only [elementWith, hkind, scalarType?, hm, hpair]

end Texts

theorem sliceOf_empty : sliceOf f "" = "" := by
  rw [sliceOf]
  simp

theorem not_misses_of_elementWith_ne_empty {spell : Field → String}
    (h : c.elementWith t spell f ≠ "") : ¬t.Misses f :=
  fun hmisses => h (c.elementWith_of_misses spell hmisses)

/-- **The type of a field is empty exactly when the field itself misses**, repeated or not. -/
theorem fieldType_eq_empty_iff (hmaps : t.MapsEnd) (hnames : t.WellNamed) :
    c.fieldType t f = "" ↔ t.Misses f := by
  rw [c.fieldType_eq hmaps]
  constructor
  · intro hempty
    have helement : c.elementWith t (c.fieldType t) f = "" := by
      by_contra hne
      exact sliceOf_ne_empty hne hempty
    rcases field_cases t f with h | ⟨spelling, h⟩ | ⟨hkind, e, he⟩ | ⟨hkind, m, hm, hmap⟩ |
      ⟨key, value, h⟩
    · exact h
    · rw [c.elementWith_of_scalar _ h] at helement
      exact absurd helement (scalarType?_ne_empty h)
    · rw [c.elementWith_of_enum _ hkind he] at helement
      exact absurd helement (enumName_ne_empty (hnames.enum _ e he))
    · rw [c.elementWith_of_message _ hkind hm hmap] at helement
      exact absurd helement (GoType.text_pointer_ne_empty _)
    · rw [c.elementWith_of_map _ h] at helement
      simp [String.append_eq_empty_iff] at helement
  · intro hmisses
    rw [c.elementWith_of_misses _ hmisses, sliceOf_empty]

/-- Every field has a form, as the walk into maps ends. -/
theorem exists_form (c : GoCodec) (hmaps : t.MapsEnd) (f : Field) :
    ∃ form, c.HasForm t f form := by
  induction f using (SymbolTable.wellFounded_partOf_iff.2 hmaps).induction with
  | h f ih =>
      rcases field_cases t f with h | ⟨spelling, h⟩ | ⟨hkind, e, he⟩ | ⟨hkind, m, hm, hmap⟩ |
        ⟨key, value, h⟩
      · exact ⟨_, .miss h⟩
      · exact ⟨_, .scalar h⟩
      · exact ⟨_, .enum hkind he⟩
      · exact ⟨_, .message hkind hm hmap⟩
      · obtain ⟨keyForm, hkey⟩ := ih key (h ▸ by simp : key ∈ t.mapParts f)
        obtain ⟨valueForm, hvalue⟩ := ih value (h ▸ by simp : value ∈ t.mapParts f)
        exact ⟨_, .map h hkey hvalue⟩

/-- The type of a field is the text of its form. -/
theorem HasForm.text_eq (hmaps : t.MapsEnd) (hnames : t.WellNamed) {form : GoType}
    (h : c.HasForm t f form) : c.fieldType t f = form.text := by
  induction h with
  | miss h =>
      rw [c.fieldType_eq hmaps, c.elementWith_of_misses _ h, sliceOf_empty]
      rfl
  | @scalar f spelling h =>
      have hne : (GoType.named spelling).text ≠ "" := scalarType?_ne_empty h
      rw [c.fieldType_eq hmaps, c.elementWith_of_scalar _ h, GoType.text_elementsOf hne]
      rfl
  | @enum f e hkind he =>
      have hne : (GoType.named (c.enumName t e)).text ≠ "" :=
        enumName_ne_empty (hnames.enum _ e he)
      rw [c.fieldType_eq hmaps, c.elementWith_of_enum _ hkind he, GoType.text_elementsOf hne]
      rfl
  | message hkind hm hmap =>
      rw [c.fieldType_eq hmaps, c.elementWith_of_message _ hkind hm hmap,
        GoType.text_elementsOf (GoType.text_pointer_ne_empty _)]
      rfl
  | map hparts _ _ ihkey ihvalue =>
      rw [c.fieldType_eq hmaps, c.elementWith_of_map _ hparts,
        GoType.text_elementsOf (GoType.text_map_ne_empty _ _), ihkey, ihvalue]
      rfl

/-- A form has a gap exactly when a miss is met. -/
theorem HasForm.complete_iff (hnames : t.WellNamed) {form : GoType} (h : c.HasForm t f form) :
    form.Complete ↔ ¬t.MeetsMiss f := by
  have hflat : ∀ f : Field, c.elementWith t (c.fieldType t) f ≠ "" → t.mapParts f = [] →
      ¬t.MeetsMiss f := fun f helement =>
    SymbolTable.not_meetsMiss_of_flat (not_misses_of_elementWith_ne_empty helement)
  induction h with
  | miss h =>
      have hmeets := SymbolTable.meetsMiss_iff.2 (Or.inl h)
      simp [GoType.Complete, hmeets]
  | @scalar f spelling h =>
      rw [GoType.complete_elementsOf]
      have hne := scalarType?_ne_empty h
      refine iff_of_true hne (hflat f ?_ ?_)
      · rwa [c.elementWith_of_scalar _ h]
      · refine SymbolTable.mapParts_of_not_message fun hkind => ?_
        rw [hkind] at h
        cases h
  | @enum f e hkind he =>
      rw [GoType.complete_elementsOf]
      have hne : c.enumName t e ≠ "" := enumName_ne_empty (hnames.enum _ e he)
      refine iff_of_true hne (hflat f ?_ ?_)
      · rwa [c.elementWith_of_enum _ hkind he]
      · exact SymbolTable.mapParts_of_not_message (by rw [hkind]; decide)
  | @message f m hkind hm hmap =>
      rw [GoType.complete_elementsOf]
      have hne : c.messageName t m ≠ "" := messageName_ne_empty (hnames.message _ m hm)
      refine iff_of_true hne (hflat f ?_ ?_)
      · rw [c.elementWith_of_message _ hkind hm hmap]
        exact GoType.text_pointer_ne_empty _
      · simp [SymbolTable.mapParts, hkind, hm, Message.mapFields?, hmap]
  | @map f key value keyForm valueForm hparts _ _ ihkey ihvalue =>
      have helement : c.elementWith t (c.fieldType t) f ≠ "" := by
        rw [c.elementWith_of_map _ hparts]
        simp [String.append_eq_empty_iff]
      have hparts : t.MeetsMiss f ↔ t.MeetsMiss key ∨ t.MeetsMiss value := by
        rw [SymbolTable.meetsMiss_iff, hparts]
        simp [not_misses_of_elementWith_ne_empty helement]
      rw [GoType.complete_elementsOf, hparts, not_or]
      exact and_congr ihkey ihvalue

/-- **A miss inside a map leaves a gap, and any other one an empty type.**  In a table in which no
map entry contains itself and all names have a letter or a digit, the type of a field is empty if
and only if the field itself misses.  It always is the text of a form, which is complete if and only
if no miss is met.  So an empty type stands for every miss that is met, and for nothing else, if and
only if neither the key nor the value of a map meets one. -/
theorem fieldType_exact (c : GoCodec) (hmaps : t.MapsEnd) (hnames : t.WellNamed) (f : Field) :
    (c.fieldType t f = "" ↔ t.Misses f) ∧
      (∃ form, c.HasForm t f form) ∧
      (∀ form, c.HasForm t f form →
        c.fieldType t f = form.text ∧ (form.Complete ↔ ¬t.MeetsMiss f)) ∧
      ((c.fieldType t f = "" ↔ t.MeetsMiss f) ↔ ∀ part ∈ t.mapParts f, ¬t.MeetsMiss part) := by
  have hempty : c.fieldType t f = "" ↔ t.Misses f := fieldType_eq_empty_iff hmaps hnames
  refine ⟨hempty, c.exists_form hmaps f,
    fun form hform => ⟨hform.text_eq hmaps hnames, hform.complete_iff hnames⟩, ?_⟩
  rw [hempty, SymbolTable.meetsMiss_iff]
  constructor
  · intro hmeets part hpart hmiss
    have hmisses := hmeets.2 (Or.inr ⟨part, hpart, hmiss⟩)
    rw [hmisses.mapParts] at hpart
    cases hpart
  · intro hnone
    refine ⟨Or.inl, fun hmeets => hmeets.resolve_right ?_⟩
    rintro ⟨part, hpart, hmiss⟩
    exact hnone part hpart hmiss

end GoCodec

/-! ### An example -/

/-- Maps end in a table in which no key and no value is a map. -/
theorem SymbolTable.mapsEnd_of_flat {t : SymbolTable}
    (h : ∀ m ∈ t.messages.values, ∀ part ∈ m.fields, t.mapParts part = []) : t.MapsEnd := by
  refine wellFounded_partOf_iff.1
    (wellFounded_of_rank (fun f => (t.mapParts f).length) fun part f hpart => ?_)
  obtain ⟨-, m, key, value, hm, hpair, hmem⟩ := mem_mapParts.1 hpart
  have hfields : part ∈ m.fields := by
    unfold Message.mapFields? at hpair
    split at hpair
    · rename_i hfields
      cases hpair
      rwa [hfields]
    · cases hpair
  have hvalue : m ∈ t.messages.values := List.mem_map_of_mem (Entries.mem_of_find? hm)
  show (t.mapParts part).length < (t.mapParts f).length
  rw [h m hvalue part hfields]
  exact List.length_pos_of_mem hpart

/-- A shop with a map to amounts of money, which are declared in a file that is not there, and a map
to lists of shelves. -/
def pricedShop : SymbolTable :=
  ((({} : SymbolTable).addMessage
    { id := ".shop.Item.PricesEntry", name := "PricesEntry", package := "shop", isMap := true
      fields :=
        [{ name := "key", kind := .string },
          { name := "value", kind := .message, typeId := some ".money.Amount" }] }).addMessage
    { id := ".shop.Item.PlacesEntry", name := "PlacesEntry", package := "shop", isMap := true
      fields :=
        [{ name := "key", kind := .string },
          { name := "value", kind := .message, typeId := some ".shop.Shelf", repeated := true }]
      }).addMessage
    { id := ".shop.Shelf", name := "Shelf", package := "shop" }

theorem pricedShop_wellFormed :
    pricedShop.Acyclic ∧ pricedShop.MapsEnd ∧ pricedShop.WellNamed := by
  have hvalues : ∀ m ∈ pricedShop.messages.values, HasWord m.name ∧ m.parent = none ∧
      ∀ part ∈ m.fields, pricedShop.mapParts part = [] := by decide +kernel
  have hmem : ∀ {id m}, pricedShop.message? id = some m → m ∈ pricedShop.messages.values :=
    fun h => List.mem_map_of_mem (Entries.mem_of_find? h)
  refine ⟨fun id hcycle => ?_, SymbolTable.mapsEnd_of_flat fun m hm => (hvalues m hm).2.2,
    fun id m hm => (hvalues m (hmem hm)).1, fun id e he => by cases he⟩
  obtain ⟨outer, -, m, hm, hparent⟩ := TransGen.tail'_iff.1 hcycle
  rw [(hvalues m (hmem hm)).2.1] at hparent
  cases hparent

/-- The places of the items meet no miss, and their type is spelled to the end. -/
theorem places_spelled :
    pricedShop.MapsEnd ∧ pricedShop.WellNamed ∧
      ∃ form, ({ year := "2024" } : GoCodec).HasForm pricedShop
        { kind := .message, typeId := some ".shop.Item.PlacesEntry" } form ∧
        form.Complete ∧ form.text = "map[string][]*Shelf" := by
  obtain ⟨-, hmaps, hnames⟩ := pricedShop_wellFormed
  have htype : ({ year := "2024" } : GoCodec).fieldType pricedShop
      { kind := .message, typeId := some ".shop.Item.PlacesEntry" } = "map[string][]*Shelf" := by
    decide +kernel
  have hparts : ∀ part ∈ pricedShop.mapParts
      { kind := .message, typeId := some ".shop.Item.PlacesEntry" },
      pricedShop.mapParts part = [] ∧
        ({ year := "2024" } : GoCodec).fieldType pricedShop part ≠ "" := by decide +kernel
  obtain ⟨hempty, ⟨form, hform⟩, hforms, hexact⟩ := GoCodec.fieldType_exact { year := "2024" }
    hmaps hnames { kind := .message, typeId := some ".shop.Item.PlacesEntry" }
  obtain ⟨htext, hcomplete⟩ := hforms form hform
  have hmeets := hexact.2 fun part hpart => SymbolTable.not_meetsMiss_of_flat
    (mt (GoCodec.fieldType_eq_empty_iff hmaps hnames).2 (hparts part hpart).2)
    (hparts part hpart).1
  refine ⟨hmaps, hnames, form, hform, hcomplete.2 fun hmiss => ?_, htext.symm.trans htype⟩
  rw [hmeets.2 hmiss] at htype
  exact absurd htype (by decide)

/-- The prices of the items meet a miss, and still they have a type, of which a part is missing. -/
theorem prices_misspelled :
    pricedShop.Acyclic ∧ pricedShop.MapsEnd ∧ pricedShop.WellNamed ∧
      pricedShop.MeetsMiss { kind := .message, typeId := some ".shop.Item.PricesEntry" } ∧
      ({ year := "2024" } : GoCodec).fieldType pricedShop
        { kind := .message, typeId := some ".shop.Item.PricesEntry" } = "map[string]" := by
  obtain ⟨hacyclic, hmaps, hnames⟩ := pricedShop_wellFormed
  have hpart : ({ name := "value", kind := .message, typeId := some ".money.Amount" } : Field)
      ∈ pricedShop.mapParts { kind := .message, typeId := some ".shop.Item.PricesEntry" } := by
    decide +kernel
  have hmisses : pricedShop.Misses
      { name := "value", kind := .message, typeId := some ".money.Amount" } :=
    .message rfl (by decide +kernel)
  exact ⟨hacyclic, hmaps, hnames, ⟨_, .single hpart, hmisses⟩, by decide +kernel⟩

end ClientGen
