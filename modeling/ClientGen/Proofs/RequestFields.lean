import ClientGen.Codec.Go
import ClientGen.Codec.Stub
import ClientGen.Proofs.SymbolTable
import ClientGen.Schema.Build

/-!
# Where the fields of a request travel

A binding sends some fields of the request in the path and some in the body.  It keeps the names of
the others, and a codec later looks these names up among the fields of the request message.

* `HttpBinding.InPath`, `HttpBinding.InBody` — the fields that the path template and the body take,
  said of the template and the body alone.
* `Method.queryFields_eq_filter` — the fields sent in the query are all others, in declaration
  order.
* `Codec.queryFields_exact` — so for each codec every field travels in the query, or in the path or
  the body, and never in both.
-/

namespace ClientGen

/-! ## Sets of names -/

namespace Table

variable {κ : Type} {α : Type} [Ord κ] [DecidableEq κ] [Std.TransOrd κ] [Std.LawfulEqOrd κ]

theorem isSome_get?_insertAll (l : List (κ × α)) (t : Table κ α) (k : κ) :
    ((t.insertAll l).get? k).isSome ↔ (t.get? k).isSome ∨ k ∈ l.map Prod.fst := by
  induction l generalizing t with
  | nil => simp [insertAll]
  | cons e l ih =>
      have hstep : t.insertAll (e :: l) = (t.insert e.1 e.2).insertAll l := rfl
      rw [hstep, ih, get?_insert', List.map_cons, List.mem_cons]
      by_cases h : k = e.1
      · simp [h]
      · simp [h]

end Table

/-- A set has the names that it is made of. -/
theorem NameSet.contains_ofNames {names : List String} {name : String} :
    (NameSet.ofNames names).contains name = true ↔ name ∈ names := by
  have hkeys : (names.map fun n => (n, ())).map Prod.fst = names := by
    rw [List.map_map]
    exact List.map_id names
  have hinsert := Table.isSome_get?_insertAll (names.map fun n => (n, ())) ∅ name
  rw [hkeys] at hinsert
  rw [Table.contains, NameSet.ofNames, Table.ofList]
  exact hinsert.trans (or_iff_right (by simp [EmptyCollection.emptyCollection]))

/-! ## Paths of fields -/

/-- The text up to the first separator has none, and it is the whole text or a separator follows. -/
theorem takeWhile_ne_eq_iff {sep : Char} {cs first : List Char} :
    cs.takeWhile (· ≠ sep) = first ↔ sep ∉ first ∧ (first = cs ∨ first ++ [sep] <+: cs) := by
  induction cs generalizing first with
  | nil =>
      rw [List.takeWhile_nil]
      constructor
      · rintro rfl
        exact ⟨List.not_mem_nil, Or.inl rfl⟩
      · rintro ⟨-, rfl | h⟩
        · rfl
        · simp at h
  | cons c cs ih =>
      by_cases hc : c = sep
      · subst hc
        rw [List.takeWhile_cons_of_neg (by simp)]
        constructor
        · rintro rfl
          exact ⟨List.not_mem_nil, Or.inr (by simp)⟩
        · rintro ⟨hsep, rfl | h⟩
          · simp at hsep
          · cases first with
            | nil => rfl
            | cons f first =>
                obtain rfl : f = c := (List.cons_prefix_cons.1 h).1
                simp at hsep
      · rw [List.takeWhile_cons_of_pos (by simpa using hc)]
        cases first with
        | nil => simp [Ne.symm hc]
        | cons f first =>
            rw [List.cons.injEq, ih, List.mem_cons, not_or, List.cons_append,
              List.cons_prefix_cons, List.cons.injEq]
            constructor
            · rintro ⟨rfl, hsep, h⟩
              exact ⟨⟨Ne.symm hc, hsep⟩, h.imp (fun h => ⟨rfl, h⟩) fun h => ⟨rfl, h⟩⟩
            · rintro ⟨⟨-, hsep⟩, ⟨rfl, h⟩ | ⟨rfl, h⟩⟩
              · exact ⟨rfl, hsep, Or.inl h⟩
              · exact ⟨rfl, hsep, Or.inr h⟩

/-- The segment is a variable whose path is the field of that name or leads from it into others. -/
def PathSegment.StartsAt (name : String) : PathSegment → Prop
  | .variable path =>
      '.' ∉ name.toList ∧ (name.toList = path.toList ∨ name.toList ++ ['.'] <+: path.toList)
  | _ => False

instance (name : String) : (s : PathSegment) → Decidable (s.StartsAt name)
  | .variable path => inferInstanceAs (Decidable ('.' ∉ name.toList ∧
      (name.toList = path.toList ∨ name.toList ++ ['.'] <+: path.toList)))
  | .literal _ => isFalse id
  | .verb _ => isFalse id

theorem PathSegment.field?_eq_some_iff {name : String} : ∀ {s : PathSegment},
    s.field? = some name ↔ s.StartsAt name
  | .literal _ => by simp [field?, StartsAt]
  | .verb _ => by simp [field?, StartsAt]
  | .variable path => by
      rw [field?, StartsAt, Option.some_inj, ← takeWhile_ne_eq_iff]
      constructor
      · rintro rfl
        rw [String.toList_ofList]
      · intro h
        rw [h, String.ofList_toList]

/-! ## Path, body and query -/

namespace HttpBinding

variable (b : HttpBinding)

/-- A variable of the path template is the field of that name or leads into it. -/
def InPath (name : String) : Prop :=
  ∃ s ∈ b.template, s.StartsAt name

/-- The body is the whole request or the field of that name. -/
def InBody (name : String) : Prop :=
  b.body = some wholeRequest ∨ b.body = some name

instance (name : String) : Decidable (b.InPath name) :=
  inferInstanceAs (Decidable (∃ s ∈ b.template, s.StartsAt name))

instance (name : String) : Decidable (b.InBody name) :=
  inferInstanceAs (Decidable (b.body = some wholeRequest ∨ b.body = some name))

end HttpBinding

/-- A name is kept for the query if the request has a field of that name and neither the path nor
the body takes it. -/
theorem contains_queryParameters {b : HttpBinding} {input : Message} {name : String} :
    (queryParameters b.template b.body (some input)).contains name = true ↔
      name ∈ input.fields.map (·.name) ∧ ¬(b.InPath name ∨ b.InBody name) := by
  have hpath : name ∈ b.template.filterMap PathSegment.field? ↔ b.InPath name := by
    simp only [List.mem_filterMap, PathSegment.field?_eq_some_iff, HttpBinding.InPath]
  rw [queryParameters]
  by_cases hbody : b.body = some wholeRequest
  · have hnone : ¬(∅ : NameSet).contains name = true := by
      simp [Table.contains, EmptyCollection.emptyCollection]
    simp [hbody, hnone, HttpBinding.InBody]
  · rw [if_neg hbody, NameSet.contains_ofNames, List.mem_filter, HttpBinding.InBody, ← hpath,
      not_or, or_iff_right hbody]
    simp

namespace MethodDescriptor

variable {d : MethodDescriptor} {t : SymbolTable} {b : HttpBinding}

/-- The names kept for the query are those of the request message that the table has. -/
theorem queryParameters_of_binding? (h : d.binding? t = some b) :
    b.queryParameters = queryParameters b.template b.body (t.message? (textOf d.inputType)) := by
  unfold binding? at h
  split at h
  · cases h
  · split at h
    · cases h
    · split at h
      · cases h
      · cases h
        rfl

end MethodDescriptor

/-- The fields that travel in the query are those that neither the path nor the body takes. -/
theorem Method.queryFields_eq_filter {m : Method} {t : SymbolTable} {input : Message}
    (hinput : t.message? m.inputId = some input)
    (hquery : m.binding.queryParameters
      = queryParameters m.binding.template m.binding.body (some input)) :
    m.queryFields t = input.fields.filter fun f =>
      ¬(m.binding.InPath f.name ∨ m.binding.InBody f.name) := by
  rw [queryFields, hinput]
  refine List.filter_congr fun f hf => ?_
  have hname : f.name ∈ input.fields.map (·.name) := List.mem_map_of_mem hf
  rw [hquery, Bool.eq_iff_iff, contains_queryParameters, and_iff_right hname, decide_eq_true_iff]

/-! ## Main result -/

/-- **Every field of a request travels, and none twice.**  The method of a descriptor that has a
binding sends in the query, in declaration order, exactly the fields of its request that are neither
the start of a variable of the path template nor the body.  There are none when the whole request is
the body. -/
theorem Codec.queryFields_exact {c : Codec}
    (hc : (∃ g : GoCodec, c = g.toCodec) ∨ ∃ s : StubCodec, c = s.toCodec)
    {d : MethodDescriptor} {t : SymbolTable} {b : HttpBinding} (hb : d.binding? t = some b)
    {input : Message} (hinput : t.message? (textOf d.inputType) = some input) :
    ∃ m, d.toMethod? t = some m ∧ m.binding = b ∧
      c.queryFields t m
        = input.fields.filter (fun f => ¬(b.InPath f.name ∨ b.InBody f.name)) ∧
      (b.body = some wholeRequest → c.queryFields t m = []) ∧
      ∀ f ∈ input.fields, f ∈ c.queryFields t m ↔ ¬(b.InPath f.name ∨ b.InBody f.name) := by
  have hcodec : ∀ m, c.queryFields t m = m.queryFields t := by
    intro m
    rcases hc with ⟨g, rfl⟩ | ⟨s, rfl⟩ <;> rfl
  have hmethod : d.toMethod? t = some
      { name := textOf d.name
        inputId := textOf d.inputType
        outputId := textOf d.outputType
        binding := b } := by
    rw [MethodDescriptor.toMethod?, hb, Option.map_some]
  refine ⟨_, hmethod, rfl, ?_⟩
  have hquery := MethodDescriptor.queryParameters_of_binding? hb
  rw [hinput] at hquery
  rw [hcodec, Method.queryFields_eq_filter hinput hquery]
  refine ⟨rfl, fun hbody => ?whole, fun f hf => ?once⟩
  case whole =>
    refine List.filter_eq_nil_iff.2 fun f _ => ?_
    have hin : b.InBody f.name := Or.inl hbody
    simp [hin]
  case once => rw [List.mem_filter, and_iff_right hf, decide_eq_true_iff]

/-- A book is changed: the path leads into one field of the request, and another one is the body. -/
def updateBook : MethodDescriptor where
  name := some "UpdateBook"
  inputType := some ".library.v1.UpdateBookRequest"
  outputType := some ".library.v1.Book"
  options := some
    { http := some
        { pattern := some (.patch "/v1/\x7bbook.name=shelves/*\x7d"), body := "update_mask" } }

/-- The request to change a book. -/
def updateBookRequest : Message where
  id := ".library.v1.UpdateBookRequest"
  name := "UpdateBookRequest"
  fields :=
    [{ name := "request_id" }, { name := "book" }, { name := "update_mask" }, { name := "name" }]

theorem updateBook_travels :
    ∃ b, updateBook.binding? (({} : SymbolTable).addMessage updateBookRequest) = some b ∧
      ∃ m, updateBook.toMethod? (({} : SymbolTable).addMessage updateBookRequest) = some m ∧
        ({ year := "2024" } : GoCodec).toCodec.queryFields
            (({} : SymbolTable).addMessage updateBookRequest) m
          = [{ name := "request_id" }, { name := "name" }] := by
  have hb : updateBook.binding? (({} : SymbolTable).addMessage updateBookRequest) = some
      { verb := "PATCH"
        template := [.literal "v1", .variable "book.name"]
        queryParameters := NameSet.ofNames ["name", "request_id"]
        body := some "update_mask" } := by decide +kernel
  have hinput : (({} : SymbolTable).addMessage updateBookRequest).message?
      (textOf updateBook.inputType) = some updateBookRequest := by decide +kernel
  obtain ⟨m, hm, -, hfields, -⟩ := Codec.queryFields_exact
    (Or.inl ⟨({ year := "2024" } : GoCodec), rfl⟩) hb hinput
  exact ⟨_, hb, m, hm, hfields.trans (by decide +kernel)⟩

end ClientGen
