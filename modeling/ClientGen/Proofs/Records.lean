import ClientGen.Template.View

/-!
# How the record of a message comes about

The view of a message is made from the views of the messages nested in it, and it stops at the first
group that the codec refuses.  This file takes the two apart: which groups the codec is asked about,
in which order, and what the record is once no group is refused.

* `SymbolTable.foldNested` — what is computed for a message from what is computed for the messages
  nested in it; `SymbolTable.groups` lists the groups in the order in which they are asked about.
* `Codec.Refuses` — the codec has no type for a group for another reason than that the language has
  plain fields for it.
* `Codec.unlessRefused` — a result, unless one of some groups is refused.  Such computations compose
  (`Codec.unlessRefused_bind`, `Codec.mapM_unlessRefused`).
* `Codec.messageView_eq_unlessRefused`, `Codec.apiView_eq_unlessRefused` — every view is of that
  form, with `Codec.messageRecord` and `Codec.apiRecord` as results.
-/

namespace ClientGen

/-! ## Along the nesting -/

namespace SymbolTable

variable {β : Type} (t : SymbolTable)

/-- What is computed for a message from the results for the messages nested in it, at most the given
number of levels deep. -/
def foldNestedWithin (f : Message → List β → β) : Nat → Message → β
  | 0, m => f m []
  | levels + 1, m => f m ((Codec.nestedMessages t m).map (foldNestedWithin f levels))

/-- What is computed for a message from the results for the messages nested in it.  The number of
messages bounds the depth, as it does for views. -/
def foldNested (f : Message → List β → β) (m : Message) : β :=
  t.foldNestedWithin f t.messages.size m

/-- The groups of the messages nested in a message, then its own. -/
def ownGroupsLast (m : Message) (nested : List (List OneOf)) : List OneOf :=
  nested.flatten ++ m.oneOfs

/-- The groups that the view of a message asks about, in their order. -/
def groups (m : Message) : List OneOf :=
  t.foldNested ownGroupsLast m

end SymbolTable

/-- The groups that the view of an API asks about, in their order. -/
def Api.groups (api : Api) : List OneOf :=
  api.selectedMessages.flatMap api.symbols.groups

namespace Codec

variable (c : Codec) (t : SymbolTable)

/-! ## Refusals -/

/-- The codec refuses to name the type of a group, and not because the language has plain fields for
it. -/
def Refuses (group : OneOf) (e : GeneratorError) : Prop :=
  c.oneOfType t group = .error e ∧ e.isUnsupported = false

/-- The refusal of a group, if it is refused. -/
def refusal? (group : OneOf) : Option GeneratorError :=
  match c.oneOfType t group with
  | .ok _ => none
  | .error e => if e.isUnsupported then none else some e

variable {c t}

theorem refusal?_eq_some_iff {group : OneOf} {e : GeneratorError} :
    c.refusal? t group = some e ↔ c.Refuses t group e := by
  unfold refusal? Refuses
  cases c.oneOfType t group with
  | ok spelling => simp
  | error e' =>
      by_cases h : e'.isUnsupported = true
      · simp only [h, if_true, reduceCtorEq, Except.error.injEq, false_iff, not_and]
        rintro rfl
        simp [h]
      · simp only [h, Bool.false_eq_true, if_false, Option.some.injEq, Except.error.injEq]
        constructor
        · rintro rfl
          exact ⟨rfl, by simpa using h⟩
        · exact And.left

theorem refusal?_eq_none_iff {group : OneOf} :
    c.refusal? t group = none ↔ ∀ e, ¬c.Refuses t group e := by
  simp only [Option.eq_none_iff_forall_ne_some, ne_eq, refusal?_eq_some_iff]

variable (c t)

/-- The first refusal among some groups, or else a result. -/
def unlessRefused {α : Type} (groups : List OneOf) (result : α) : Except GeneratorError α :=
  match groups.findSome? (c.refusal? t) with
  | some e => .error e
  | none => .ok result

variable {c t} {α β γ : Type}

theorem unlessRefused_eq_ok {groups : List OneOf} {result a : α}
    (h : c.unlessRefused t groups result = .ok a) :
    a = result ∧ ∀ group ∈ groups, ∀ e, ¬c.Refuses t group e := by
  unfold unlessRefused at h
  cases hrefusal : groups.findSome? (c.refusal? t) with
  | some e => simp [hrefusal] at h
  | none =>
      refine ⟨by simpa [hrefusal, eq_comm] using h, fun group hgroup => ?_⟩
      exact refusal?_eq_none_iff.1 (List.findSome?_eq_none_iff.1 hrefusal group hgroup)

theorem unlessRefused_of_not_refuses {groups : List OneOf}
    (h : ∀ group ∈ groups, ∀ e, ¬c.Refuses t group e) (a : α) :
    c.unlessRefused t groups a = .ok a := by
  have hnone : groups.findSome? (c.refusal? t) = none :=
    List.findSome?_eq_none_iff.2 fun group hgroup => refusal?_eq_none_iff.2 (h group hgroup)
  rw [unlessRefused, hnone]

/-- Two computations one after the other ask about the groups of both. -/
theorem unlessRefused_bind (groups groups' : List OneOf) (a : α) (f : α → β) :
    (c.unlessRefused t groups a >>= fun a => c.unlessRefused t groups' (f a))
      = c.unlessRefused t (groups ++ groups') (f a) := by
  unfold unlessRefused
  rw [List.findSome?_append]
  cases groups.findSome? (c.refusal? t) with
  | none => rfl
  | some e => rfl

theorem unlessRefused_map (groups : List OneOf) (a : α) (f : α → β) :
    (c.unlessRefused t groups a >>= fun a => pure (f a)) = c.unlessRefused t groups (f a) := by
  unfold unlessRefused
  cases groups.findSome? (c.refusal? t) with
  | none => rfl
  | some e => rfl

/-- A traversal asks about the groups of its items, one item after the other. -/
theorem mapM_unlessRefused {f : α → Except GeneratorError β} {groups : α → List OneOf} {g : α → β}
    {l : List α} (h : ∀ a ∈ l, f a = c.unlessRefused t (groups a) (g a)) :
    l.mapM f = c.unlessRefused t (l.flatMap groups) (l.map g) := by
  induction l with
  | nil => rfl
  | cons a l ih =>
      have hrest (b : β) : (l.mapM f >>= fun bs => pure (b :: bs))
          = c.unlessRefused t (l.flatMap groups) (b :: l.map g) := by
        rw [ih fun x hx => h x (List.mem_cons_of_mem _ hx)]
        exact unlessRefused_map _ _ (b :: ·)
      rw [List.mapM_cons, h a (List.mem_cons_self ..)]
      simp only [hrest]
      exact unlessRefused_bind _ _ _ (· :: l.map g)

/-! ## Views as results unless a group is refused -/

variable (c t)

/-- The record of a group, given the types of groups. -/
def oneOfRecord (types : OneOf → Option String) (owner : Message) (group : OneOf) : OneOfView where
  name := group.name
  nameToSnake := c.toSnake group.name
  nameToPascal := c.toPascal group.name
  docLines := c.docLines group.documentation
  oneOfType := types group
  fields := (group.members owner).map (c.fieldView t)

/-- The record of a message, given the types of groups and the records of the messages nested in
it. -/
def messageRecordWith (types : OneOf → Option String) (m : Message) (messages : List MessageView) :
    MessageView where
  id := m.id
  name := c.messageName t m
  qualifiedName := c.qualifiedMessageName t m
  docLines := c.docLines m.documentation
  fields := m.fields.map (c.fieldView t)
  basicFields := (m.fields.filter (!·.isOneOf)).map (c.fieldView t)
  oneOfs := m.oneOfs.map (c.oneOfRecord t types m)
  messages
  enums := (m.enums.filterMap t.enum?).map (c.enumView t)

/-- The record of a message, given the types of groups. -/
def messageRecord (types : OneOf → Option String) (m : Message) : MessageView :=
  t.foldNested (c.messageRecordWith t types) m

/-- The record of an API, given the types of groups. -/
def apiRecord (types : OneOf → Option String) (api : Api) : ApiView where
  name := api.name
  title := api.title
  description := api.description
  packageName := c.packageName api
  manifestLines := c.manifestLines
  imports := c.imports api
  copyrightYear := c.copyrightYear
  services := api.selectedServices.map (c.serviceView api.symbols)
  messages := api.selectedMessages.map (c.messageRecord api.symbols types)
  enums := api.selectedEnums.map (c.enumView api.symbols)

/-- The type of a group as the codec answers, none if it gives an error. -/
def namedType (group : OneOf) : Option String :=
  (c.oneOfType t group).toOption

variable {c t}

theorem groupType_eq_unlessRefused (group : OneOf) :
    c.groupType t group = c.unlessRefused t [group] (c.namedType t group) := by
  unfold groupType unlessRefused namedType refusal?
  cases h : c.oneOfType t group with
  | ok spelling => simp [Except.toOption, h]
  | error e => by_cases hu : e.isUnsupported = true <;> simp [Except.toOption, h, hu]

theorem oneOfView_eq_unlessRefused (owner : Message) (group : OneOf) :
    c.oneOfView t owner group
      = c.unlessRefused t [group] (c.oneOfRecord t (c.namedType t) owner group) := by
  rw [oneOfView, groupType_eq_unlessRefused]
  exact unlessRefused_map _ _ _

theorem messageViewWith_eq_unlessRefused (m : Message) (messages : List MessageView) :
    c.messageViewWith t m messages
      = c.unlessRefused t m.oneOfs (c.messageRecordWith t (c.namedType t) m messages) := by
  have hgroups : m.oneOfs.mapM (c.oneOfView t m)
      = c.unlessRefused t m.oneOfs (m.oneOfs.map (c.oneOfRecord t (c.namedType t) m)) := by
    rw [mapM_unlessRefused fun group _ => oneOfView_eq_unlessRefused m group,
      List.flatMap_singleton']
  rw [messageViewWith, hgroups]
  exact unlessRefused_map _ _ _

/-- By induction on the levels: the views of the nested messages ask about their groups first. -/
theorem messageViewWithin_eq_unlessRefused (levels : Nat) (m : Message) :
    c.messageViewWithin t levels m
      = c.unlessRefused t (t.foldNestedWithin SymbolTable.ownGroupsLast levels m)
          (t.foldNestedWithin (c.messageRecordWith t (c.namedType t)) levels m) := by
  induction levels generalizing m with
  | zero => exact messageViewWith_eq_unlessRefused m []
  | succ levels ih =>
      simp only [messageViewWithin, mapM_unlessRefused fun inner _ => ih inner,
        messageViewWith_eq_unlessRefused]
      rw [unlessRefused_bind _ _ _ (c.messageRecordWith t (c.namedType t) m)]
      rfl

theorem messageView_eq_unlessRefused (m : Message) :
    c.messageView t m
      = c.unlessRefused t (t.groups m) (c.messageRecord t (c.namedType t) m) :=
  messageViewWithin_eq_unlessRefused _ m

theorem apiView_eq_unlessRefused (api : Api) :
    c.apiView api
      = c.unlessRefused api.symbols api.groups
          (c.apiRecord (c.namedType api.symbols) api) := by
  rw [apiView, mapM_unlessRefused fun m _ => messageView_eq_unlessRefused m]
  exact unlessRefused_map _ _ _

/-! ## Records that are given -/

variable {m : Message} {v : MessageView}

theorem eq_of_messageViewWith {vs : List MessageView} (h : c.messageViewWith t m vs = .ok v) :
    v = c.messageRecordWith t (c.namedType t) m vs := by
  rw [messageViewWith_eq_unlessRefused] at h
  exact (unlessRefused_eq_ok h).1

/-- Whatever is nested in a message, its record is made from some records. -/
theorem exists_messageViewWith_of_within {levels : Nat} (h : c.messageViewWithin t levels m = .ok v) :
    ∃ vs, c.messageViewWith t m vs = .ok v := by
  cases levels with
  | zero => exact ⟨[], h⟩
  | succ levels =>
      rw [messageViewWithin] at h
      cases hnested : (nestedMessages t m).mapM (c.messageViewWithin t levels) with
      | error e => rw [hnested] at h; cases h
      | ok vs =>
          rw [hnested] at h
          exact ⟨vs, h⟩

theorem exists_of_messageView (h : c.messageView t m = .ok v) :
    ∃ vs, v = c.messageRecordWith t (c.namedType t) m vs := by
  obtain ⟨vs, hvs⟩ := exists_messageViewWith_of_within h
  exact ⟨vs, eq_of_messageViewWith hvs⟩

theorem fields_of_messageView (h : c.messageView t m = .ok v) :
    v.fields = m.fields.map (c.fieldView t) := by
  obtain ⟨vs, rfl⟩ := exists_of_messageView h
  rfl

end Codec
end ClientGen
