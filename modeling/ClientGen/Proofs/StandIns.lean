import ClientGen.Proofs.GoTypes
import ClientGen.Proofs.RequestFields

/-!
# Query parameters and stand-ins

A binding keeps the names of the fields that travel in the query.  They are taken from the request
message when the service is built, and the fields themselves are looked up when the client is
generated.  In between the services of all files are entered, comments are attached, and stand-ins
take the places of the time types.

* `SymbolTable.KeepsQueries` — every method keeps the names for the request that the table has.
  Each service that is entered leaves this true (`KeepsQueries.enterService`), so it is true of the
  table of every API (`Api.keepsQueries_ofCompiled`).
* `GoCodec.Replaced`, `queryFields_withWellKnownTypes` — the requests that stand-ins take the place
  of, and what becomes of their fields.
* `GoCodec.queryNames_loaded_iff` — with the stand-ins in place a method sends what its binding
  names, unless its request is replaced and has something to send.
-/

namespace ClientGen

/-! ## Names kept for the query -/

/-- Sets with the same names are equal. -/
theorem NameSet.ext_contains {s t : NameSet} (h : ∀ name, s.contains name = t.contains name) :
    s = t := by
  refine Table.ext_get? fun name => ?_
  have hname : (s.get? name).isSome = (t.get? name).isSome := h name
  revert hname
  cases s.get? name <;> cases t.get? name <;> simp

theorem NameSet.ofNames_nil : NameSet.ofNames [] = ∅ := rfl

namespace Method

variable {m : Method} {t u : SymbolTable}

/-- The names of the fields that the method sends in the query, as the table has its request. -/
def queryNames (m : Method) (t : SymbolTable) : NameSet :=
  NameSet.ofNames ((m.queryFields t).map (·.name))

/-- The binding keeps the names that the request message of the table gives it. -/
def KeepsQuery (m : Method) (t : SymbolTable) : Prop :=
  m.binding.queryParameters
    = queryParameters m.binding.template m.binding.body (t.message? m.inputId)

theorem KeepsQuery.congr (h : m.KeepsQuery t)
    (htables : ∀ id,
      (t.message? id).map Message.undocumented = (u.message? id).map Message.undocumented) :
    m.KeepsQuery u := by
  rw [KeepsQuery, h, ← ServiceDescriptor.queryParameters_undocumented, htables,
    ServiceDescriptor.queryParameters_undocumented]

/-- What was kept is found again. -/
theorem KeepsQuery.queryNames_eq (h : m.KeepsQuery t) :
    m.queryNames t = m.binding.queryParameters := by
  unfold KeepsQuery at h
  cases hinput : t.message? m.inputId with
  | none =>
      rw [h, queryNames, queryFields, hinput]
      rfl
  | some input =>
      rw [hinput] at h
      refine NameSet.ext_contains fun name => Bool.eq_iff_iff.2 ?_
      rw [queryNames, NameSet.contains_ofNames, queryFields_eq_filter hinput h, h,
        contains_queryParameters]
      simp only [List.mem_map, List.mem_filter, decide_eq_true_iff]
      constructor
      · rintro ⟨f, ⟨hf, htravels⟩, rfl⟩
        exact ⟨⟨f, hf, rfl⟩, htravels⟩
      · rintro ⟨⟨f, hf, rfl⟩, htravels⟩
        exact ⟨f, ⟨hf, htravels⟩, rfl⟩

end Method

/-- A method of a descriptor keeps the names for the request of the table it is made in. -/
theorem MethodDescriptor.keepsQuery_of_toMethod? {d : MethodDescriptor} {t : SymbolTable}
    {m : Method} (h : d.toMethod? t = some m) : m.KeepsQuery t := by
  obtain ⟨b, hb, rfl⟩ := Option.map_eq_some_iff.1 h
  exact queryParameters_of_binding? hb

theorem ServiceDescriptor.keepsQuery_toService {s : ServiceDescriptor} {t : SymbolTable}
    {package : String} {m : Method} (hm : m ∈ (s.toService t package).methods) :
    m.KeepsQuery t := by
  obtain ⟨d, -, hd⟩ := List.mem_filterMap.1 hm
  exact MethodDescriptor.keepsQuery_of_toMethod? hd

/-! ## Building -/

namespace SymbolTable

variable {t : SymbolTable}

/-- Every method of the table keeps the names that its request message gives it. -/
def KeepsQueries (t : SymbolTable) : Prop :=
  ∀ id s, t.service? id = some s → ∀ m ∈ s.methods, m.KeepsQuery t

/-- A service that is entered finds the messages that all earlier ones found. -/
theorem KeepsQueries.enterService (h : t.KeepsQueries) (d : Declaration ServiceDescriptor) :
    (t.enterService d).KeepsQueries := by
  intro id s hs m hm
  have hmessages : ∀ id, (t.message? id).map Message.undocumented
      = ((t.enterService d).message? id).map Message.undocumented := fun _ => rfl
  refine Method.KeepsQuery.congr ?_ hmessages
  rw [SymbolTable.enterService, service?_addService] at hs
  split at hs
  · obtain rfl := Option.some.inj hs
    exact ServiceDescriptor.keepsQuery_toService hm
  · exact h id s hs m hm

theorem KeepsQueries.foldl_enterService (h : t.KeepsQueries)
    (ds : List (Declaration ServiceDescriptor)) :
    (ds.foldl SymbolTable.enterService t).KeepsQueries := by
  induction ds generalizing t with
  | nil => exact h
  | cons d ds ih => exact ih (h.enterService d)

/-- Comments name no field. -/
theorem KeepsQueries.of_undocumented (h : t.undocumented.KeepsQueries) : t.KeepsQueries := by
  intro id s hs m hm
  have hkeeps : m.undocumented.KeepsQuery t.undocumented :=
    h id s.undocumented (by rw [service?_undocumented, hs, Option.map_some]) _
      (List.mem_map_of_mem hm)
  refine Method.KeepsQuery.congr (t := t.undocumented) hkeeps fun id => ?_
  rw [message?_undocumented, Option.map_map]
  exact congrArg (Option.map · _) (funext Message.undocumented_undocumented)

end SymbolTable

/-- **The names that a binding keeps are those of its request in the table of the API.** -/
theorem Api.keepsQueries_ofCompiled (config : Option ServiceConfig) (compiled : CompiledFiles) :
    (ofCompiled config compiled).symbols.KeepsQueries := by
  refine SymbolTable.KeepsQueries.of_undocumented ?_
  rw [undocumented_symbols_ofCompiled]
  refine SymbolTable.KeepsQueries.foldl_enterService ?_ _
  -- the files are registered without their services
  intro id s hs
  rw [SymbolTable.service?_undocumented, SymbolTable.service?,
    (SymbolTable.registers_ofFiles compiled.files).services] at hs
  cases hs

/-! ## Stand-ins -/

namespace GoCodec

/-- A stand-in takes the place of the message: it is a time type and not selected. -/
def Replaced (api : Api) (id : String) : Prop :=
  id ∈ wellKnownTypes.map (·.id) ∧ id ∉ api.messages

instance (api : Api) (id : String) : Decidable (Replaced api id) :=
  inferInstanceAs (Decidable (_ ∧ _))

theorem messages_standIn (api : Api) (m : Message) : (standIn api m).messages = api.messages := by
  unfold standIn
  split <;> rfl

theorem exists_message?_foldl_standIn {ms : List Message} {api : Api} {id : String}
    (hid : id ∈ ms.map (·.id)) (hunselected : id ∉ api.messages) :
    ∃ n ∈ ms, (ms.foldl standIn api).symbols.message? id = some n := by
  induction ms generalizing api with
  | nil => cases hid
  | cons m ms ih =>
      rw [List.foldl_cons]
      by_cases hm : id = m.id
      · subst hm
        have hput : (standIn api m).symbols.message? m.id = some m :=
          (message?_standIn api m m.id).trans (if_pos ⟨rfl, hunselected⟩)
        obtain ⟨n, hn, hcases⟩ := @message?_foldl_standIn ms _ _ _ hput
        exact ⟨n, List.mem_cons.2 hcases, hn⟩
      · rw [← messages_standIn api m] at hunselected
        obtain ⟨n, hn, hfound⟩ := ih ((List.mem_cons.1 hid).resolve_left hm) hunselected
        exact ⟨n, List.mem_cons_of_mem _ hn, hfound⟩

theorem message?_foldl_standIn_of_not {ms : List Message} {api : Api} {id : String}
    (h : ¬(id ∈ ms.map (·.id) ∧ id ∉ api.messages)) :
    (ms.foldl standIn api).symbols.message? id = api.symbols.message? id := by
  induction ms generalizing api with
  | nil => rfl
  | cons m ms ih =>
      rw [List.map_cons, List.mem_cons] at h
      rw [List.foldl_cons, ih (by rw [messages_standIn]; exact fun hms => h (hms.imp_left .inr)),
        message?_standIn, if_neg]
      rintro ⟨rfl, hunselected⟩
      exact h ⟨Or.inl rfl, hunselected⟩

/-- With the stand-ins in place a method finds the fields that it found before, or none if its
request is replaced: a stand-in has no fields. -/
theorem queryFields_withWellKnownTypes (api : Api) (m : Method) :
    m.queryFields (withWellKnownTypes api).symbols
      = if Replaced api m.inputId then [] else m.queryFields api.symbols := by
  split
  case isTrue hreplaced =>
    have hfields : ∀ n ∈ wellKnownTypes, n.fields = [] := by decide
    obtain ⟨n, hn, hfound⟩ := exists_message?_foldl_standIn hreplaced.1 hreplaced.2
    rw [Method.queryFields, withWellKnownTypes, hfound]
    simp only [hfields n hn, List.filter_nil]
  case isFalse hkept =>
    rw [Method.queryFields, withWellKnownTypes, message?_foldl_standIn_of_not hkept,
      Method.queryFields]

/-! ## Main result -/

/-- **Query parameters are lost with the request only.**  Before the stand-ins are loaded, the
fields that a method of a service sends in the query have the names that its binding keeps.
Afterwards they are the same fields, or none if a stand-in has replaced the request.  So the names
differ exactly if the request is replaced and the binding names any of its fields. -/
theorem queryNames_loaded_iff (c : GoCodec) (config : Option ServiceConfig)
    (compiled : CompiledFiles) {s : Service} {m : Method}
    (hs : s ∈ (Api.ofCompiled config compiled).selectedServices) (hm : m ∈ s.methods) :
    let api := Api.ofCompiled config compiled
    let loaded := c.toCodec.withWellKnownTypes api
    NameSet.ofNames ((c.toCodec.queryFields api.symbols m).map (·.name))
        = m.binding.queryParameters ∧
      c.toCodec.queryFields loaded.symbols m
        = (if Replaced api m.inputId then [] else c.toCodec.queryFields api.symbols m) ∧
      (NameSet.ofNames ((c.toCodec.queryFields loaded.symbols m).map (·.name))
          = m.binding.queryParameters ↔
        ¬(Replaced api m.inputId ∧ m.binding.queryParameters ≠ ∅)) := by
  intro api loaded
  obtain ⟨id, -, hid⟩ := List.mem_filterMap.1 hs
  have hbefore : m.queryNames api.symbols = m.binding.queryParameters :=
    (Api.keepsQueries_ofCompiled config compiled id s hid m hm).queryNames_eq
  have hafter : m.queryFields loaded.symbols
      = if Replaced api m.inputId then [] else m.queryFields api.symbols :=
    queryFields_withWellKnownTypes api m
  refine ⟨hbefore, hafter, ?_⟩
  show m.queryNames loaded.symbols = m.binding.queryParameters ↔ _
  rw [Method.queryNames, hafter]
  by_cases hreplaced : Replaced api m.inputId
  · rw [if_pos hreplaced, List.map_nil, NameSet.ofNames_nil, and_iff_right hreplaced, not_not]
    exact eq_comm
  · rw [if_neg hreplaced]
    exact iff_of_true hbefore fun h => hreplaced h.1

end GoCodec

/-- A clock tells its own time, or that of a time stamp. -/
def clockFiles : CompiledFiles :=
  let tell (name path input : String) : MethodDescriptor :=
    { name := some name
      inputType := some input
      outputType := some ".clock.Reading"
      options := some { http := some { pattern := some (.get path) } } }
  let stamps : FileDescriptor :=
    { package := some "google.protobuf"
      messageTypes :=
        [{ name := some "Timestamp"
           fields :=
             [{ name := some "seconds", label := some 1, type := some 3 },
               { name := some "nanos", label := some 1, type := some 5 }] }] }
  let clock : FileDescriptor :=
    { package := some "clock"
      messageTypes :=
        [{ name := some "Reading"
           fields :=
             [{ name := some "zone", label := some 1, type := some 9 },
               { name := some "precise", label := some 1, type := some 8 }] }]
      services :=
        [{ name := some "Clock"
           methods :=
             [tell "Tell" "/v1/\x7bzone\x7d" ".clock.Reading",
               tell "TellAt" "/v1/time" ".google.protobuf.Timestamp"] }] }
  { targets := [clock], files := [stamps, clock] }

/-- One field of the reading is in the path, the other one in the query. -/
theorem clockFiles_tell :
    ∃ s ∈ (Api.ofCompiled none clockFiles).selectedServices, ∃ m ∈ s.methods,
      m.name = "Tell" ∧ m.binding.queryParameters = NameSet.ofNames ["precise"] ∧
      NameSet.ofNames ((({ year := "2024" } : GoCodec).toCodec.queryFields
          (({ year := "2024" } : GoCodec).toCodec.withWellKnownTypes
            (Api.ofCompiled none clockFiles)).symbols m).map (·.name))
        = m.binding.queryParameters := by
  have hmethod : ∃ s ∈ (Api.ofCompiled none clockFiles).selectedServices, ∃ m ∈ s.methods,
      m.name = "Tell" ∧ m.inputId = ".clock.Reading" ∧
        m.binding.queryParameters = NameSet.ofNames ["precise"] := by
    decide +kernel
  obtain ⟨s, hs, m, hm, hname, hinput, hquery⟩ := hmethod
  have hkept : ¬GoCodec.Replaced (Api.ofCompiled none clockFiles) m.inputId := by
    rw [hinput]
    decide
  exact ⟨s, hs, m, hm, hname, hquery,
    (GoCodec.queryNames_loaded_iff { year := "2024" } none clockFiles hs hm).2.2.2
      fun hlost => hkept hlost.1⟩

/-- The time stamp was known when the service was built, and its fields are gone. -/
theorem clockFiles_tellAt :
    ∃ s ∈ (Api.ofCompiled none clockFiles).selectedServices, ∃ m ∈ s.methods,
      ((SymbolTable.ofFiles clockFiles.files).message? m.inputId).isSome ∧
      m.binding.queryParameters = NameSet.ofNames ["nanos", "seconds"] ∧
      NameSet.ofNames ((({ year := "2024" } : GoCodec).toCodec.queryFields
          (({ year := "2024" } : GoCodec).toCodec.withWellKnownTypes
            (Api.ofCompiled none clockFiles)).symbols m).map (·.name))
        ≠ m.binding.queryParameters := by
  decide +kernel

end ClientGen
