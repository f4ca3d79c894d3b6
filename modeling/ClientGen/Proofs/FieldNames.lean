import ClientGen.Proofs.Emission
import ClientGen.Proofs.GoNames
import ClientGen.Proofs.Records
import ClientGen.Proofs.RequestFields
import Mathlib.Data.List.Forall2

/-!
# Struct fields and the accessors of a client

A Go struct gets its field names from the records of a message.  A client names the same fields in
the arguments of the request path, in the selector of the body and in the query, and spells them
anew each time, with an eye on the keywords or without.

* `Codec.Declares` — a record stands for a field in the record of some message.
* `PathSegment.fieldNames?` — the fields that a variable of a path leads through.
* `GoCodec.Accesses` — a client spells every field as the struct declares it.
* `GoCodec.accessors_exact` — this is so for each client, as no keyword is in Pascal case.
-/

namespace ClientGen

/-! ## Struct fields -/

/-- The record is that of a field, within the record of a message. -/
def Codec.Declares (c : Codec) (t : SymbolTable) (field : FieldView) : Prop :=
  ∃ m record, c.messageView t m = .ok record ∧ field ∈ record.fields

theorem Codec.Declares.exists_field {c : Codec} {t : SymbolTable} {field : FieldView}
    (h : c.Declares t field) : ∃ f, field = c.fieldView t f := by
  obtain ⟨m, record, hrecord, hfield⟩ := h
  rw [fields_of_messageView hrecord] at hfield
  obtain ⟨f, -, rfl⟩ := List.mem_map.1 hfield
  exact ⟨f, rfl⟩

namespace GoCodec

variable {g : GoCodec} {t : SymbolTable} {field : FieldView}

/-- No message stops the Go codec: it has plain fields for every group. -/
theorem exists_messageView (g : GoCodec) (t : SymbolTable) (m : Message) :
    ∃ record, g.toCodec.messageView t m = .ok record :=
  Codec.exists_messageViewWithin_ok g.namesGroups t t.messages.size m

theorem nameToPascal_fieldView (g : GoCodec) (t : SymbolTable) (f : Field) :
    (g.toCodec.fieldView t f).nameToPascal = Naming.toPascalCase f.name := by
  simp only [Codec.fieldView, toCodec, toPascal_eq]

theorem queryExpression_fieldView (g : GoCodec) (t : SymbolTable) (f : Field) :
    (g.toCodec.fieldView t f).queryExpression = "fmt.Sprint(req." ++ toPascal f.name ++ ")" :=
  rfl

theorem nameToPascal_of_declares (h : g.toCodec.Declares t field) :
    field.nameToPascal = Naming.toPascalCase field.name := by
  obtain ⟨f, rfl⟩ := h.exists_field
  exact nameToPascal_fieldView g t f

theorem toPascalCase_notMem_keywords (name : String) : Naming.toPascalCase name ∉ goKeywords := by
  intro hkeyword
  have hplain := toPascal_eq name
  rw [toPascal, escapeGoKeyword, if_pos hkeyword] at hplain
  have hlength := congrArg String.length hplain
  simp at hlength

end GoCodec

/-! ## Paths -/

/-- The names of the fields that a variable leads through. -/
def PathSegment.fieldNames? : PathSegment → Option (List String)
  | .variable path => some ((path.toList.splitOn '.').map String.ofList)
  | _ => none

namespace GoCodec

theorem accessor_eq (path : String) :
    accessor path
      = ".".intercalate
          (((path.toList.splitOn '.').map String.ofList).map Naming.toPascalCase) := by
  have hdot : ".".toList = ['.'] := rfl
  rw [← String.toList_inj, String.toList_intercalate, hdot, accessor, String.toList_ofList,
    List.map_map, List.map_map]
  simp [Function.comp_def, Naming.toPascalCase]

/-- The argument of a variable has an accessor for each field on the way. -/
theorem segmentArgument?_eq : ∀ s : PathSegment,
    segmentArgument? s
      = s.fieldNames?.map fun names =>
          ", req." ++ ".".intercalate (names.map Naming.toPascalCase)
  | .literal _ => rfl
  | .verb _ => rfl
  | .variable path => by simp [segmentArgument?, PathSegment.fieldNames?, accessor_eq]

theorem pathArguments_eq_map (b : HttpBinding) :
    pathArguments b
      = (b.template.filterMap PathSegment.fieldNames?).map fun names =>
          ", req." ++ ".".intercalate (names.map Naming.toPascalCase) := by
  rw [pathArguments, List.map_filterMap]
  simp only [segmentArgument?_eq]

/-! ## Accessors -/

/-- A client spells each field of a request as the struct declares it. -/
structure Accesses (g : GoCodec) (t : SymbolTable) : Prop where
  /-- Every message has a struct, with one field for each of its own. -/
  struct : ∀ m, ∃ record, g.toCodec.messageView t m = .ok record ∧
    record.fields.map (fun field => (field.name, field.nameToPascal))
      = m.fields.map fun f => (f.name, Naming.toPascalCase f.name)
  /-- A query parameter is printed from the struct field. -/
  query : ∀ field, g.toCodec.Declares t field →
    field.queryExpression = "fmt.Sprint(req." ++ field.nameToPascal ++ ")"
  /-- The query has fields of the request message only. -/
  queryFields : ∀ method input, t.message? method.inputId = some input →
    ∀ record, g.toCodec.messageView t input = .ok record →
      (g.toCodec.methodView t method).queryFields ⊆ record.fields
  /-- A body that is a field is selected by the struct field. -/
  body : ∀ method field, g.toCodec.Declares t field → method.binding.body = some field.name →
    field.name ≠ wholeRequest →
      (g.toCodec.methodView t method).bodySelector = "." ++ field.nameToPascal
  /-- The argument of a path variable goes through the struct fields of its parts, whatever messages
  declare them. -/
  path : ∀ method, List.Forall₂
    (fun names argument => ∀ fields : List FieldView,
      (∀ field ∈ fields, g.toCodec.Declares t field) → fields.map (·.name) = names →
        argument = ", req." ++ ".".intercalate (fields.map (·.nameToPascal)))
    (method.binding.template.filterMap PathSegment.fieldNames?)
    (g.toCodec.methodView t method).pathArguments

variable (g : GoCodec) (t : SymbolTable)

theorem map_nameToPascal {fields : List FieldView}
    (h : ∀ field ∈ fields, g.toCodec.Declares t field) :
    fields.map (·.nameToPascal) = (fields.map (·.name)).map Naming.toPascalCase := by
  rw [List.map_map]
  exact List.map_congr_left fun field hfield => nameToPascal_of_declares (h field hfield)

theorem accesses : g.Accesses t where
  struct m := by
    obtain ⟨record, hrecord⟩ := g.exists_messageView t m
    refine ⟨record, hrecord, ?_⟩
    rw [Codec.fields_of_messageView hrecord, List.map_map]
    refine List.map_congr_left fun f _ => ?_
    rw [Function.comp_apply, nameToPascal_fieldView, Codec.fieldView]
  query field hfield := by
    obtain ⟨f, rfl⟩ := hfield.exists_field
    rw [nameToPascal_fieldView, ← toPascal_eq]
    exact queryExpression_fieldView g t f
  queryFields method input hinput record hrecord := by
    rw [Codec.fields_of_messageView hrecord]
    have hquery : g.toCodec.queryFields t method ⊆ input.fields := by
      simp only [toCodec, Method.queryFields, hinput]
      exact List.filter_subset_self _
    exact List.map_subset _ hquery
  body method field hfield hbody hname := by
    have hpart : method.binding.bodyIsRequest = false := by
      simp [HttpBinding.bodyIsRequest, hbody, hname]
    simp [Codec.methodView, toCodec, bodySelector, hbody, hpart, nameToPascal_of_declares hfield]
  path method := by
    have harguments : (g.toCodec.methodView t method).pathArguments
        = pathArguments method.binding := rfl
    rw [harguments, pathArguments_eq_map, List.forall₂_map_right_iff]
    refine List.forall₂_same.2 fun names _ fields hfields hnames => ?_
    rw [map_nameToPascal g t hfields, hnames]

end GoCodec

/-- **A client refers to the struct fields that the model declares.**  No symbol in Pascal case is a
keyword, so that the spelling that escapes keywords and the one that does not are the same.  Hence
the path arguments, the body and the query of a method name each field as its struct does. -/
theorem GoCodec.accessors_exact :
    (∀ symbol, Naming.toPascalCase symbol ∉ goKeywords ∧
      toPascal symbol = Naming.toPascalCase symbol) ∧
    ∀ (g : GoCodec) (t : SymbolTable), g.Accesses t :=
  ⟨fun symbol => ⟨toPascalCase_notMem_keywords symbol, toPascal_eq symbol⟩, accesses⟩

/-- A book is changed: the path leads to its name, and the body is the mask. -/
def changeBook : Method where
  name := "ChangeBook"
  inputId := ".library.v1.UpdateBookRequest"
  binding :=
    { verb := "PATCH", template := [.literal "v1", .variable "book.name"],
      body := some "update_mask" }

theorem changeBook_accessed :
    ∃ record, ({ year := "2024" } : GoCodec).toCodec.messageView {} updateBookRequest = .ok record ∧
      ∃ book ∈ record.fields, ∃ name ∈ record.fields, ∃ mask ∈ record.fields,
        book.nameToPascal = "Book" ∧ name.nameToPascal = "Name" ∧
          mask.nameToPascal = "UpdateMask" ∧
        (({ year := "2024" } : GoCodec).toCodec.methodView {} changeBook).pathArguments
          = [", req.Book.Name"] ∧
        (({ year := "2024" } : GoCodec).toCodec.methodView {} changeBook).bodySelector
          = ".UpdateMask" := by
  have haccesses := GoCodec.accessors_exact.2 { year := "2024" } {}
  obtain ⟨record, hrecord, hfields⟩ := haccesses.struct updateBookRequest
  have hfind : ∀ pair ∈ [("book", "Book"), ("name", "Name"), ("update_mask", "UpdateMask")],
      ∃ field ∈ record.fields, (field.name, field.nameToPascal) = pair := by
    have hpairs : [("book", "Book"), ("name", "Name"), ("update_mask", "UpdateMask")]
        ⊆ record.fields.map fun field => (field.name, field.nameToPascal) := by
      rw [hfields]
      decide +kernel
    exact fun pair hpair => List.mem_map.1 (hpairs hpair)
  obtain ⟨book, hbook, hbookName⟩ := hfind ("book", "Book") (by simp)
  obtain ⟨name, hname, hnameName⟩ := hfind ("name", "Name") (by simp)
  obtain ⟨mask, hmask, hmaskName⟩ := hfind ("update_mask", "UpdateMask") (by simp)
  rw [Prod.mk.injEq] at hbookName hnameName hmaskName
  have hdeclares : ∀ field ∈ record.fields,
      ({ year := "2024" } : GoCodec).toCodec.Declares {} field :=
    fun field hfield => ⟨updateBookRequest, record, hrecord, hfield⟩
  have hpath := haccesses.path changeBook
  have hbody := haccesses.body changeBook mask (hdeclares mask hmask) (by rw [hmaskName.1]; rfl)
    (by rw [hmaskName.1]; decide)
  refine ⟨record, hrecord, book, hbook, name, hname, mask, hmask, hbookName.2, hnameName.2,
    hmaskName.2, ?_, by rw [hbody, hmaskName.2]; rfl⟩
  have hnames : changeBook.binding.template.filterMap PathSegment.fieldNames?
      = [["book", "name"]] := by decide +kernel
  rw [hnames] at hpath
  obtain ⟨argument, arguments, hargument, hrest, heq⟩ := List.forall₂_cons_left_iff.1 hpath
  have hboth : ∀ field ∈ [book, name],
      ({ year := "2024" } : GoCodec).toCodec.Declares {} field := by
    simp [hdeclares book hbook, hdeclares name hname]
  rw [heq, List.forall₂_nil_left_iff.1 hrest,
    hargument [book, name] hboth (by simp [hbookName, hnameName])]
  simp [hbookName, hnameName]

end ClientGen
