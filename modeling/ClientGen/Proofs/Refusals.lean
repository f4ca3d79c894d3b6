import ClientGen.Codec.Stub
import ClientGen.Proofs.Nesting

/-!
# What stops the view of an API

The only question to a codec that can be answered with an error is that for the type of a group.
An answer that the language has plain fields for the group becomes data; any other error is that of
the whole view, from whatever depth of nesting it comes.

* `Api.mem_groups_iff` — the codec is asked about the groups of the messages that are shown, which
  are those with a record in the view.
* `ApiView.untyped` — a view without the types of its groups, which is all that the answers decide.
* `Codec.apiView_reportsRefusals` — when the view fails, with which error, and what becomes of the
  answers if it does not.
-/

namespace ClientGen

open Relation (ReflTransGen)

/-! ## The groups that are asked about -/

namespace SymbolTable

variable {t : SymbolTable}

/-- The groups of the nested messages come first, then those of the message. -/
theorem groups_eq (h : t.NestingEnds) (m : Message) :
    t.groups m = (Codec.nestedMessages t m).flatMap t.groups ++ m.oneOfs :=
  foldNested_eq h ownGroupsLast m

theorem mem_groups_iff (h : t.NestingEnds) {group : OneOf} {m : Message} :
    group ∈ t.groups m ↔ ∃ inner, ReflTransGen t.Nests m inner ∧ group ∈ inner.oneOfs := by
  refine iff_exists_of_calls (P := fun m => group ∈ t.groups m) h.wellFounded (fun m => ?_) m
  rw [groups_eq h, List.mem_append, List.mem_flatMap, or_comm]
  rfl

end SymbolTable

theorem Api.mem_groups_iff {api : Api} (h : api.symbols.NestingEnds) {group : OneOf} :
    group ∈ api.groups ↔ ∃ m, api.ShowsMessage m ∧ group ∈ m.oneOfs := by
  simp only [groups, List.mem_flatMap, SymbolTable.mem_groups_iff h, ShowsMessage]
  constructor
  · rintro ⟨top, htop, m, hpath, hgroup⟩
    exact ⟨m, ⟨top, htop, hpath⟩, hgroup⟩
  · rintro ⟨m, ⟨top, htop, hpath⟩, hgroup⟩
    exact ⟨top, htop, m, hpath, hgroup⟩

/-! ## Records without the types of groups -/

/-- The record of a group without its type. -/
def OneOfView.untyped (v : OneOfView) : OneOfView :=
  { v with oneOfType := none }

mutual

/-- The record of a message without the types of groups, at any depth. -/
def MessageView.untyped (v : MessageView) : MessageView :=
  match v with
  | ⟨id, name, qualifiedName, docLines, fields, basicFields, oneOfs, messages, enums⟩ =>
      ⟨id, name, qualifiedName, docLines, fields, basicFields, oneOfs.map OneOfView.untyped,
        MessageView.untypedAll messages, enums⟩

/-- The records of some messages without the types of groups. -/
def MessageView.untypedAll (vs : List MessageView) : List MessageView :=
  match vs with
  | [] => []
  | v :: vs => v.untyped :: untypedAll vs

end

theorem MessageView.untypedAll_eq (vs : List MessageView) : untypedAll vs = vs.map untyped := by
  induction vs with
  | nil => rfl
  | cons v vs ih => rw [untypedAll, ih, List.map_cons]

/-- The view of an API without the types of groups. -/
def ApiView.untyped (v : ApiView) : ApiView :=
  { v with messages := v.messages.map MessageView.untyped }

namespace Codec

variable {c : Codec} {t : SymbolTable}

theorem untyped_messageRecord (types : OneOf → Option String) (m : Message) :
    (c.messageRecord t types m).untyped = c.messageRecord t (fun _ => none) m := by
  refine SymbolTable.map_foldNested MessageView.untyped ?_ m
  intro m nested
  simp only [messageRecordWith, MessageView.untyped, MessageView.untypedAll_eq, List.map_map]
  rfl

theorem untyped_apiRecord (types : OneOf → Option String) (api : Api) :
    (c.apiRecord types api).untyped = c.apiRecord (fun _ => none) api := by
  simp [ApiView.untyped, apiRecord, Function.comp_def, untyped_messageRecord]

/-! ## What becomes of the answers -/

/-- A result unless a group is refused: the error is that of the first group refused. -/
theorem unlessRefused_eq_error_iff {α : Type} {groups : List OneOf} {result : α}
    {e : GeneratorError} :
    c.unlessRefused t groups result = .error e ↔
      ∃ before group after, groups = before ++ group :: after ∧
        (∀ earlier ∈ before, ∀ e', ¬c.Refuses t earlier e') ∧ c.Refuses t group e := by
  have hfirst : c.unlessRefused t groups result = .error e ↔
      groups.findSome? (c.refusal? t) = some e := by
    unfold unlessRefused
    cases groups.findSome? (c.refusal? t) <;> simp
  rw [hfirst, List.findSome?_eq_some_iff]
  simp only [refusal?_eq_some_iff, refusal?_eq_none_iff]
  constructor
  · rintro ⟨before, group, after, hgroups, hrefused, hbefore⟩
    exact ⟨before, group, after, hgroups, hbefore, hrefused⟩
  · rintro ⟨before, group, after, hgroups, hbefore, hrefused⟩
    exact ⟨before, group, after, hgroups, hrefused, hbefore⟩

/-- The type in the record of a group is what the codec answered; it is missing if the codec
declined to name one. -/
structure Answers (c : Codec) (t : SymbolTable) (group : OneOf) (v : OneOfView) : Prop where
  name : v.name = group.name
  named : ∀ spelling, v.oneOfType = some spelling ↔ c.oneOfType t group = .ok spelling
  declined : v.oneOfType = none ↔ ∃ e, c.oneOfType t group = .error e ∧ e.isUnsupported = true

theorem answers_oneOfRecord {group : OneOf} (h : ∀ e, ¬c.Refuses t group e) (owner : Message) :
    c.Answers t group (c.oneOfRecord t (c.namedType t) owner group) := by
  refine ⟨rfl, fun spelling => ?_, ?_⟩
  · simp only [oneOfRecord, namedType]
    cases c.oneOfType t group <;> simp [Except.toOption]
  · simp only [oneOfRecord, namedType]
    cases hanswer : c.oneOfType t group with
    | ok spelling => simp [Except.toOption]
    | error e =>
        have hdeclined : e.isUnsupported = true := by
          by_contra hfailed
          exact h e ⟨hanswer, by simpa using hfailed⟩
        simp [Except.toOption, hdeclined]

/-- What the answers of a codec to the questions for the types of groups make of the view. -/
structure ReportsRefusals (c : Codec) (api : Api) : Prop where
  /-- The view fails if and only if a group of a message in it is refused. -/
  fails : (∃ e, c.apiView api = .error e) ↔
    ∃ m group e, api.ShowsMessage m ∧ group ∈ m.oneOfs ∧ c.Refuses api.symbols group e
  /-- The error is that of the first group refused. -/
  first : ∀ e, c.apiView api = .error e ↔
    ∃ before group after, api.groups = before ++ group :: after ∧
      (∀ earlier ∈ before, ∀ e', ¬c.Refuses api.symbols earlier e') ∧ c.Refuses api.symbols group e
  /-- The groups of the nested messages come before those of the message. -/
  order : api.groups = api.selectedMessages.flatMap api.symbols.groups ∧
    ∀ m, api.symbols.groups m
      = (nestedMessages api.symbols m).flatMap api.symbols.groups ++ m.oneOfs
  /-- A view that does not fail is the record of the API, with the types as answered. -/
  data : ∀ view, c.apiView api = .ok view → view = c.apiRecord (c.namedType api.symbols) api
  /-- In each record the types of the groups are as answered. -/
  types : ∀ view, c.apiView api = .ok view → ∀ record ∈ view.messageRecords,
    ∃ m, api.ShowsMessage m ∧ record.id = m.id ∧
      List.Forall₂ (c.Answers api.symbols) m.oneOfs record.oneOfs
  /-- Nothing else depends on the answers. -/
  rest : ∀ view, c.apiView api = .ok view → ∀ answers view',
    { c with oneOfType := answers }.apiView api = .ok view' → view'.untyped = view.untyped

theorem answers_of_mem_messageRecords {api : Api} (h : api.symbols.NestingEnds) {view : ApiView}
    (hview : c.apiView api = .ok view) {record : MessageView}
    (hrecord : record ∈ view.messageRecords) :
    ∃ m, api.ShowsMessage m ∧ record.id = m.id ∧
      List.Forall₂ (c.Answers api.symbols) m.oneOfs record.oneOfs := by
  obtain ⟨m, hm, rfl⟩ := (mem_messageRecords_iff h hview).1 hrecord
  rw [apiView_eq_unlessRefused] at hview
  have hnone := (unlessRefused_eq_ok hview).2
  refine ⟨m, hm, ?_⟩
  rw [messageRecord_eq h]
  refine ⟨rfl, List.forall₂_map_right_iff.2 (List.forall₂_same.2 fun group hgroup => ?_)⟩
  have hasked : group ∈ api.groups := (Api.mem_groups_iff h).2 ⟨m, hm, hgroup⟩
  exact answers_oneOfRecord (hnone group hasked) m

end Codec

/-- **The view of an API fails for the first group that is refused, and for nothing else.**  The
groups of all messages with a record count, those of nested messages before those of the message
around them.  If the codec answers that the language has plain fields for a group, the record of the
group has no type, and nothing else in the view changes. -/
theorem Codec.apiView_reportsRefusals (c : Codec) {api : Api} (h : api.symbols.NestingEnds) :
    c.ReportsRefusals api := by
  have hfirst : ∀ e, c.apiView api = .error e ↔
      ∃ before group after, api.groups = before ++ group :: after ∧
        (∀ earlier ∈ before, ∀ e', ¬c.Refuses api.symbols earlier e') ∧
          c.Refuses api.symbols group e := by
    intro e
    rw [apiView_eq_unlessRefused, unlessRefused_eq_error_iff]
  refine ⟨?fails, hfirst, ⟨rfl, SymbolTable.groups_eq h⟩, ?data, ?types, ?rest⟩
  case fails =>
    constructor
    · rintro ⟨e, he⟩
      obtain ⟨before, group, after, hgroups, -, hrefused⟩ := (hfirst e).1 he
      obtain ⟨m, hm, hgroup⟩ := (Api.mem_groups_iff h).1 (show group ∈ api.groups by simp [hgroups])
      exact ⟨m, group, e, hm, hgroup, hrefused⟩
    · rintro ⟨m, group, e, hm, hgroup, hrefused⟩
      cases hview : c.apiView api with
      | error e => exact ⟨e, rfl⟩
      | ok view =>
          rw [apiView_eq_unlessRefused] at hview
          have hnone := (unlessRefused_eq_ok hview).2
          exact absurd hrefused (hnone group ((Api.mem_groups_iff h).2 ⟨m, hm, hgroup⟩) e)
  case data =>
    intro view hview
    rw [apiView_eq_unlessRefused] at hview
    exact (unlessRefused_eq_ok hview).1
  case types =>
    intro view hview record hrecord
    exact answers_of_mem_messageRecords h hview hrecord
  case rest =>
    intro view hview answers view' hview'
    rw [apiView_eq_unlessRefused] at hview hview'
    rw [(unlessRefused_eq_ok hview).1, (unlessRefused_eq_ok hview').1, untyped_apiRecord,
      untyped_apiRecord]
    rfl

/-- Letters with a group, and with a seal that has a group, too. -/
def postOffice : CompiledFiles :=
  let post : FileDescriptor :=
    { package := some "post"
      messageTypes :=
        [{ name := some "Letter"
           fields := [{ name := some "street", type := some 9, oneofIndex := some 0 }]
           oneofDecls := [{ name := some "address" }]
           nestedTypes :=
             [{ name := some "Seal"
                fields := [{ name := some "wax", type := some 9, oneofIndex := some 0 }]
                oneofDecls := [{ name := some "mark" }] }] }] }
  { targets := [post], files := [post] }

/-- The group of the nested message is refused first. -/
theorem postOffice_refused :
    (Api.ofCompiled none postOffice).symbols.NestingEnds ∧
      { ({} : StubCodec).toCodec with
          oneOfType := fun _ group => .error (.render group.name) }.apiView
        (Api.ofCompiled none postOffice) = .error (.render "mark") := by
  have hends := (Api.linked_ofCompiled none postOffice).nestingEnds
  have hnames : (Api.ofCompiled none postOffice).groups.map (·.name) = ["mark", "address"] := by
    decide +kernel
  obtain ⟨mark, rest, hgroups, hmark, -⟩ := List.map_eq_cons_iff.1 hnames
  refine ⟨hends, ((Codec.apiView_reportsRefusals _ hends).first _).2 ⟨[], mark, rest, hgroups, ?_⟩⟩
  exact ⟨by simp, by simp [hmark], rfl⟩

end ClientGen
