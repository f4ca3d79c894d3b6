import ClientGen.Proofs.TypeNames
import ClientGen.Proofs.Walks
import Mathlib.Data.List.Infix

/-!
# Where the spelling of a type mentions the time package

A Go name begins with the name of a package if the outermost message around it is declared there,
and the type of a field is made of such names.  Nothing else in a type has a dot, so the package is
mentioned exactly where such a name is.

* `SymbolTable.Within` — a message is in a package by way of the messages around it.
* `SymbolTable.Names` — the type of a field is spelled with the name of a message or an enum of the
  package.
* `GoCodec.mentionsTime_messageName_iff`, `mentionsTime_fieldType_iff` — what mentions the time
  package, for names and for types.
* `GoCodec.mentionsTime_fieldType_iff_parts` — the same for maps, by way of their keys and values.
-/

namespace ClientGen

open Relation (ReflTransGen)

/-- A word without the separator lies on one side of it. -/
theorem infix_append_cons_iff {α : Type} {word before after : List α} {separator : α}
    (h : separator ∉ word) :
    word <:+: before ++ separator :: after ↔ word <:+: before ∨ word <:+: after := by
  constructor
  · intro hword
    rcases List.infix_append_iff.1 hword with hbefore | hafter | ⟨front, rest, rfl, hfront, hrest⟩
    · exact Or.inl hbefore
    · rcases List.infix_cons_iff.1 hafter with hstart | hafter
      · rcases List.prefix_cons_iff.1 hstart with rfl | ⟨tail, rfl, -⟩
        · exact Or.inl (List.nil_infix)
        · exact absurd (List.mem_cons_self ..) h
      · exact Or.inr hafter
    · rcases List.prefix_cons_iff.1 hrest with rfl | ⟨tail, rfl, -⟩
      · rw [List.append_nil]
        exact Or.inl hfront.isInfix
      · exact absurd (List.mem_append_right _ (List.mem_cons_self ..)) h
  · rintro (hbefore | hafter)
    · exact hbefore.trans (List.prefix_append _ _).isInfix
    · have hsuffix : after <:+ before ++ separator :: after :=
        ⟨before ++ [separator], by simp⟩
      exact hafter.trans hsuffix.isInfix

/-! ## Types of a package -/

namespace SymbolTable

/-- The outermost message around a message, which may be the message itself, is in the package. -/
inductive Within (t : SymbolTable) (package : String) : Message → Prop
  | top {m : Message} (h : m.parent.bind t.message? = none) (hpackage : m.package = package) :
      Within t package m
  | nested {m outer : Message} (h : t.Around outer m) (houter : Within t package outer) :
      Within t package m

/-- The enum is in a message of the package, or else in the package. -/
def EnumWithin (t : SymbolTable) (package : String) (e : Enum) : Prop :=
  (e.parent.bind t.message? = none ∧ e.package = package) ∨
    ∃ outer, e.parent.bind t.message? = some outer ∧ t.Within package outer

/-- The field, which is no map, has the type of a message or an enum of the package. -/
def Names (t : SymbolTable) (package : String) (f : Field) : Prop :=
  match f.kind with
  | .message =>
      ∃ m, t.message? (f.typeId.getD "") = some m ∧ m.isMap = false ∧ t.Within package m
  | .enum => ∃ e, t.enum? (f.typeId.getD "") = some e ∧ t.EnumWithin package e
  | _ => False

variable {t : SymbolTable} {package : String}

theorem within_of_top {m : Message} (h : m.parent.bind t.message? = none) :
    t.Within package m ↔ m.package = package := by
  constructor
  · intro hwithin
    cases hwithin with
    | top _ hpackage => exact hpackage
    | nested haround _ =>
        rw [Around, h] at haround
        cases haround
  · exact .top h

theorem within_of_around {m outer : Message} (h : t.Around outer m) :
    t.Within package m ↔ t.Within package outer := by
  constructor
  · intro hwithin
    cases hwithin with
    | top hnone _ =>
        rw [Around, hnone] at h
        cases h
    | nested haround houter =>
        obtain rfl : _ = outer := Option.some.inj (haround.symm.trans h)
        exact houter
  · exact .nested h

theorem enumWithin_of_top {e : Enum} (h : e.parent.bind t.message? = none) :
    t.EnumWithin package e ↔ e.package = package := by
  simp [EnumWithin, h]

theorem enumWithin_of_parent {e : Enum} {outer : Message}
    (h : e.parent.bind t.message? = some outer) :
    t.EnumWithin package e ↔ t.Within package outer := by
  simp [EnumWithin, h]

end SymbolTable

/-! ## Mentions of the time package -/

namespace GoCodec

/-- The spelling has the name of the time package with a dot after it. -/
def MentionsTime (spelling : String) : Prop :=
  (timePackage ++ ".").toList <:+: spelling.toList

instance (spelling : String) : Decidable (MentionsTime spelling) :=
  inferInstanceAs (Decidable (_ <:+: _))

/-- Without a dot there is no mention. -/
theorem not_mentionsTime_of_dot_notMem {spelling : String} (h : '.' ∉ spelling.toList) :
    ¬MentionsTime spelling := by
  intro hmentions
  have hdot : '.' ∈ (timePackage ++ ".").toList := by decide
  exact h (hmentions.mem hdot)

/-- A mention lies on one side of a separator. -/
theorem mentionsTime_append_iff (mark : String) {separator : Char}
    (hmark : mark.toList = [separator]) (h : separator ∉ (timePackage ++ ".").toList)
    (before after : String) :
    MentionsTime (before ++ mark ++ after) ↔ MentionsTime before ∨ MentionsTime after := by
  have hlist : (before ++ mark ++ after).toList
      = before.toList ++ separator :: after.toList := by
    simp [String.toList_append, hmark]
  rw [MentionsTime, hlist, infix_append_cons_iff h]
  rfl

/-! ### Names -/

section Names

variable {c : GoCodec} {t : SymbolTable}

/-- Without import mappings the time package is the only one with an alias. -/
theorem qualifier_of_importMap_empty (himports : c.importMap = ∅) (package : String) :
    c.qualifier package = if package = timePackage then timePackage ++ "." else "" := by
  have hnone : c.importMap.get? package = none := by
    rw [himports]
    rfl
  rw [qualifier, packageAlias, hnone]
  by_cases hpackage : package = timePackage
  · simp [hpackage]
  · simp [hpackage]

theorem mentionsTime_top_iff (himports : c.importMap = ∅) (package name : String) :
    MentionsTime (c.qualifier package ++ Naming.toPascalCase name) ↔ package = timePackage := by
  rw [qualifier_of_importMap_empty himports]
  by_cases hpackage : package = timePackage
  · have hprefix : (timePackage ++ ".").toList
        <+: (timePackage ++ "." ++ Naming.toPascalCase name).toList := by
      rw [String.toList_append (s := timePackage ++ ".")]
      exact List.prefix_append _ _
    simp only [hpackage, if_true, iff_true]
    exact hprefix.isInfix
  · simp only [hpackage, if_false, iff_false, String.empty_append]
    exact not_mentionsTime_of_dot_notMem (Naming.dot_notMem_toPascalCase name)

theorem mentionsTime_nested_iff (scope name : String) :
    MentionsTime (scope ++ "_" ++ Naming.toPascalCase name) ↔ MentionsTime scope := by
  have hname := not_mentionsTime_of_dot_notMem (Naming.dot_notMem_toPascalCase name)
  rw [mentionsTime_append_iff "_" rfl (by decide), or_iff_left hname]

/-- **The name of a message mentions the time package** if the outermost message around it is in
that package. -/
theorem mentionsTime_messageName_iff (ht : t.Linked) (himports : c.importMap = ∅) (m : Message) :
    MentionsTime (c.messageName t m) ↔ t.Within timePackage m := by
  -- from the outside in
  induction m using ht.wellFounded_around.induction with
  | h m ih =>
      cases hparent : m.parent.bind t.message? with
      | none =>
          rw [c.messageName_of_top hparent, mentionsTime_top_iff himports,
            SymbolTable.within_of_top hparent]
      | some outer =>
          rw [c.messageName_of_parent ht.acyclic hparent, mentionsTime_nested_iff,
            SymbolTable.within_of_around hparent]
          exact ih outer hparent

theorem mentionsTime_enumName_iff (ht : t.Linked) (himports : c.importMap = ∅) (e : Enum) :
    MentionsTime (c.enumName t e) ↔ t.EnumWithin timePackage e := by
  cases hparent : e.parent.bind t.message? with
  | none =>
      rw [c.enumName_of_top hparent, mentionsTime_top_iff himports,
        SymbolTable.enumWithin_of_top hparent]
  | some outer =>
      rw [c.enumName_of_parent hparent, mentionsTime_nested_iff,
        SymbolTable.enumWithin_of_parent hparent]
      exact mentionsTime_messageName_iff ht himports outer

end Names

/-! ### Types -/

/-- What makes a slice, a pointer or a map of a type mentions nothing. -/
theorem mentionsTime_slice_iff (element : String) :
    MentionsTime ("[]" ++ element) ↔ MentionsTime element := by
  have hsplit := mentionsTime_append_iff "]" rfl (by decide) "[" element
  rwa [or_iff_right (by decide)] at hsplit

theorem mentionsTime_pointer_iff (element : String) :
    MentionsTime ("*" ++ element) ↔ MentionsTime element := by
  have hsplit := mentionsTime_append_iff "*" rfl (by decide) "" element
  rwa [or_iff_right (by decide)] at hsplit

theorem mentionsTime_map_iff (key value : String) :
    MentionsTime ("map[" ++ key ++ "]" ++ value) ↔ MentionsTime key ∨ MentionsTime value := by
  have hkey := mentionsTime_append_iff "[" rfl (by decide) "map" key
  rw [or_iff_right (by decide)] at hkey
  rw [mentionsTime_append_iff "]" rfl (by decide)]
  exact or_congr_left hkey

theorem mentionsTime_sliceOf_iff (f : Field) (element : String) :
    MentionsTime (sliceOf f element) ↔ MentionsTime element := by
  unfold sliceOf
  split
  · exact mentionsTime_slice_iff element
  · rfl

variable {c : GoCodec} {t : SymbolTable}

/-- A type mentions the time package by a name, or in the type of a key or a value. -/
theorem mentionsTime_elementWith_iff (ht : t.Linked) (himports : c.importMap = ∅)
    (spell : Field → String) (f : Field) :
    MentionsTime (c.elementWith t spell f) ↔
      t.Names timePackage f ∨ ∃ part, t.PartOf part f ∧ MentionsTime (spell part) := by
  have hnothing : ¬MentionsTime "" := by decide
  unfold elementWith SymbolTable.Names SymbolTable.PartOf SymbolTable.mapParts
  cases hkind : f.kind with
  | message =>
      cases hm : t.message? (f.typeId.getD "") with
      | none => simp [scalarType?, hnothing]
      | some m =>
          cases hfields : m.mapFields? with
          | some parts =>
              have hmap : m.isMap = true := by
                cases hmap : m.isMap with
                | true => rfl
                | false => simp [Message.mapFields?, hmap] at hfields
              simp [scalarType?, hfields, hmap, mentionsTime_map_iff]
          | none =>
              cases hmap : m.isMap with
              | true => simp [scalarType?, hfields, hmap, hnothing]
              | false =>
                  simp [scalarType?, hfields, hmap, mentionsTime_pointer_iff,
                    mentionsTime_messageName_iff ht himports]
  | enum =>
      cases he : t.enum? (f.typeId.getD "") with
      | none => simp [scalarType?, hnothing]
      | some e => simp [scalarType?, mentionsTime_enumName_iff ht himports]
  | _ =>
      -- a scalar type is from no package
      simp only [scalarType?, List.not_mem_nil, false_and, exists_false, or_false, iff_false]
      decide

theorem mentionsTime_fieldType_iff (ht : t.Linked) (hmaps : t.MapsEnd) (himports : c.importMap = ∅)
    (f : Field) :
    MentionsTime (c.fieldType t f) ↔
      t.Names timePackage f ∨ ∃ part, t.PartOf part f ∧ MentionsTime (c.fieldType t part) := by
  rw [c.fieldType_eq hmaps, mentionsTime_sliceOf_iff, mentionsTime_elementWith_iff ht himports]

/-- **The type of a field mentions the time package** if the field, or a key or a value at any depth
of the map that it is, has the type of a message or an enum of that package. -/
theorem mentionsTime_fieldType_iff_parts (ht : t.Linked) (hmaps : t.MapsEnd)
    (himports : c.importMap = ∅) (f : Field) :
    MentionsTime (c.fieldType t f) ↔
      ∃ part, ReflTransGen (fun whole part => t.PartOf part whole) f part ∧
        t.Names timePackage part :=
  -- on the maps one inside the other
  iff_exists_of_calls (SymbolTable.wellFounded_partOf_iff.2 hmaps)
    (mentionsTime_fieldType_iff ht hmaps himports) f

end GoCodec

end ClientGen
