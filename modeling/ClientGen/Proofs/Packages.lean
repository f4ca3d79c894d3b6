import ClientGen.Proofs.Emission
import ClientGen.Proofs.Selection
import ClientGen.Proofs.TypeNames
import ClientGen.Proofs.Walks

/-!
# One package for all that is generated

Validation looks at the selected elements only, while whole trees of messages are generated.  What
is nested in a message has the package of the message, so it is enough to look at the top.

* `GoCodec.validate_eq_ok_iff`, `validate_eq_error_iff` — validation finds the first element that is
  not in the package of the very first one.
* `Api.ReachesMessage`, `Api.ReachesEnum` — what can be come to from the selected elements, and
  `Codec.reached_of_apiView`: a view is made of nothing else.
* `Api.package_of_reachesMessage` — the package passes from the selected messages to all of these.
* `GoCodec.checksPackages_ofCompiled` — validation of the API of compiled files.
-/

namespace ClientGen

open Relation (ReflTransGen)

/-! ## Validation -/

namespace GoCodec

variable {api : Api}

/-- Validation succeeds when one package has all selected elements. -/
theorem validate_eq_ok_iff :
    validate api = .ok () ↔ ∃ package, ∀ x ∈ selectedElements api, x.1 = package := by
  unfold validate
  cases helements : selectedElements api with
  | nil => simp
  | cons first rest =>
      obtain ⟨want, id⟩ := first
      cases hfind : rest.find? (·.1 ≠ want) with
      | none =>
          have hrest : ∀ x ∈ rest, x.1 = want := by simpa using List.find?_eq_none.1 hfind
          have hall : ∀ x ∈ (want, id) :: rest, x.1 = want := by
            intro x hx
            rcases List.mem_cons.1 hx with rfl | hx
            · rfl
            · exact hrest x hx
          simp only [hfind, true_iff]
          exact ⟨want, hall⟩
      | some odd =>
          have hodd : odd.1 ≠ want := by simpa using List.find?_some hfind
          simp only [hfind, reduceCtorEq, false_iff]
          rintro ⟨package, hall⟩
          have hfirst : want = package := hall (want, id) (List.mem_cons_self ..)
          have hmem : odd ∈ (want, id) :: rest :=
            List.mem_cons_of_mem _ (List.mem_of_find?_eq_some hfind)
          exact hodd ((hall odd hmem).trans hfirst.symm)

/-- Validation fails with the first element that is not in the package of the very first one. -/
theorem validate_eq_error_iff {error : GeneratorError} :
    validate api = .error error ↔ ∃ first before odd after,
      selectedElements api = first :: (before ++ odd :: after) ∧
      (∀ x ∈ before, x.1 = first.1) ∧ odd.1 ≠ first.1 ∧
      error = .mixedPackages first.1 odd.1 odd.2 := by
  constructor
  · intro h
    unfold validate at h
    cases helements : selectedElements api with
    | nil => rw [helements] at h; cases h
    | cons first rest =>
        rw [helements] at h
        cases hfind : rest.find? (·.1 ≠ first.1) with
        | none => simp only [hfind, reduceCtorEq] at h
        | some odd =>
            simp only [hfind, Except.error.injEq] at h
            obtain ⟨hodd, before, after, rfl, hbefore⟩ := List.find?_eq_some_iff_append.1 hfind
            exact ⟨first, before, odd, after, rfl, by simpa using hbefore, by simpa using hodd,
              h.symm⟩
  · rintro ⟨first, before, odd, after, helements, hbefore, hodd, rfl⟩
    have hfind : (before ++ odd :: after).find? (·.1 ≠ first.1) = some odd :=
      List.find?_eq_some_iff_append.2
        ⟨by simpa using hodd, before, after, rfl, by simpa using hbefore⟩
    simp only [validate, helements, hfind]

end GoCodec

/-! ## What the selected elements lead to -/

/-- The message is selected or nested in a selected one, however deep. -/
def Api.ReachesMessage (api : Api) (m : Message) : Prop :=
  ∃ top ∈ api.selectedMessages,
    ReflTransGen (fun outer inner => api.symbols.Inside inner outer) top m

/-- The enum is selected or in such a message. -/
def Api.ReachesEnum (api : Api) (e : Enum) : Prop :=
  e ∈ api.selectedEnums ∨ ∃ m, api.ReachesMessage m ∧ e ∈ m.enums.filterMap api.symbols.enum?

namespace Codec

variable {c : Codec} {t : SymbolTable}

theorem nested_of_messageViewWith {m : Message} {vs : List MessageView} {v : MessageView}
    (h : c.messageViewWith t m vs = .ok v) :
    v.messages = vs ∧ v.enums = (m.enums.filterMap t.enum?).map (c.enumView t) := by
  rw [eq_of_messageViewWith h]
  exact ⟨rfl, rfl⟩

/-- The records of a message are those of messages nested in it. -/
theorem inside_of_messageViewWithin {levels : Nat} {m : Message} {v : MessageView}
    (h : c.messageViewWithin t levels m = .ok v) : ∀ r ∈ v.preorder, ∃ n,
      ReflTransGen (fun outer inner => t.Inside inner outer) m n ∧
        c.messageViewWith t n r.messages = .ok r := by
  induction levels generalizing m v with
  | zero =>
      rw [messageViewWithin] at h
      have hmessages := (nested_of_messageViewWith h).1
      intro r hr
      rw [MessageView.preorder_eq, hmessages, List.flatMap_nil, List.mem_singleton] at hr
      rw [hr, hmessages]
      exact ⟨m, .refl, h⟩
  | succ levels ih =>
      rw [messageViewWithin] at h
      cases hnested : (nestedMessages t m).mapM (c.messageViewWithin t levels) with
      | error e => rw [hnested] at h; cases h
      | ok vs =>
          rw [hnested] at h
          have hv : c.messageViewWith t m vs = .ok v := h
          have hmessages := (nested_of_messageViewWith hv).1
          intro r hr
          rw [MessageView.preorder_eq, hmessages, List.mem_cons, List.mem_flatMap] at hr
          rcases hr with rfl | ⟨w, hw, hr⟩
          · exact ⟨m, .refl, hmessages ▸ hv⟩
          · obtain ⟨inner, hinner, hview⟩ := exists_mem_of_forall₂ (forall₂_of_mapM_ok hnested) hw
            obtain ⟨n, hpath, hn⟩ := ih hview r hr
            have hstep : t.Inside inner m := List.mem_of_mem_filter hinner
            exact ⟨n, .head hstep hpath, hn⟩

/-- **A view is made of what the selected elements lead to**: each record of a message or an enum is
that of a message or an enum that they reach. -/
theorem reached_of_apiView {api : Api} {view : ApiView} (h : c.apiView api = .ok view) :
    (∀ r ∈ view.messageRecords, ∃ m, api.ReachesMessage m ∧
      c.messageViewWith api.symbols m r.messages = .ok r) ∧
    ∀ r ∈ view.enumRecords, ∃ e, api.ReachesEnum e ∧ r = c.enumView api.symbols e := by
  rw [apiView] at h
  cases hselected : api.selectedMessages.mapM (c.messageView api.symbols) with
  | error e => rw [hselected] at h; cases h
  | ok vs =>
      rw [hselected] at h
      cases h
      have hmessages : ∀ r ∈ vs.flatMap MessageView.preorder, ∃ m, api.ReachesMessage m ∧
          c.messageViewWith api.symbols m r.messages = .ok r := by
        intro r hr
        obtain ⟨v, hv, hr⟩ := List.mem_flatMap.1 hr
        obtain ⟨top, htop, hview⟩ := exists_mem_of_forall₂ (forall₂_of_mapM_ok hselected) hv
        obtain ⟨m, hpath, hm⟩ := inside_of_messageViewWithin hview r hr
        exact ⟨m, ⟨top, htop, hpath⟩, hm⟩
      refine ⟨hmessages, fun r hr => ?_⟩
      rcases List.mem_append.1 hr with hr | hr
      · obtain ⟨e, he, rfl⟩ := List.mem_map.1 hr
        exact ⟨e, Or.inl he, rfl⟩
      · obtain ⟨v, hv, hr⟩ := List.mem_flatMap.1 hr
        obtain ⟨m, hm, hview⟩ := hmessages v hv
        rw [(nested_of_messageViewWith hview).2] at hr
        obtain ⟨e, he, rfl⟩ := List.mem_map.1 hr
        exact ⟨e, Or.inr ⟨m, hm, he⟩, rfl⟩

end Codec

/-! ## The package of compiled files -/

/-- The package and the identifier of what is declared. -/
def Declaration.label {α : Type} [Named α] (d : Declaration α) : String × String :=
  (d.package, d.id)

/-- The labels of all elements at the top level of the files to generate from: services, messages,
enums, each in the order of the files. -/
def CompiledFiles.labels (compiled : CompiledFiles) : List (String × String) :=
  (compiled.targets.flatMap FileDescriptor.declaredServices).map Declaration.label ++
    ((compiled.targets.flatMap FileDescriptor.topMessages).map Declaration.label ++
      (compiled.targets.flatMap FileDescriptor.topEnums).map Declaration.label)

/-- Look-ups that find the labels of declarations. -/
theorem map_filterMap_ids {α β γ : Type} [Named α] {find : String → Option β} {g : β → γ}
    {label : Declaration α → γ} {ds : List (Declaration α)}
    (h : ∀ d ∈ ds, ∃ b, find d.id = some b ∧ g b = label d) :
    ((ds.map Declaration.id).filterMap find).map g = ds.map label := by
  have hall : ∀ d ∈ ds, ((find d.id).map g) = some (label d) := by
    intro d hd
    obtain ⟨b, hb, hlabel⟩ := h d hd
    rw [hb, Option.map_some, hlabel]
  rw [List.filterMap_map, List.map_filterMap, ← List.filterMap_eq_map]
  exact List.filterMap_congr hall

namespace Api

variable {config : Option ServiceConfig} {compiled : CompiledFiles}

/-- The selected elements are those declared at the top level of the files to generate from. -/
theorem selectedElements_ofCompiled (hsub : compiled.targets.Sublist compiled.files)
    (hids : DistinctIds compiled.files) :
    GoCodec.selectedElements (ofCompiled config compiled) = compiled.labels := by
  have hshows := @shows_ofCompiled config compiled hids.messages hids.enums
  have hservices : (ofCompiled config compiled).selectedServices.map (fun s => (s.package, s.id))
      = (compiled.targets.flatMap FileDescriptor.declaredServices).map Declaration.label := by
    rw [selectedServices, services_ofCompiled]
    refine map_filterMap_ids fun d hd => ?_
    obtain ⟨s, hs, hoffers⟩ := exists_offers config (hids.sublist hsub).services hd
    exact ⟨s, hs, Prod.ext hoffers.package hoffers.id⟩
  have hmessages : (ofCompiled config compiled).selectedMessages.map (fun m => (m.package, m.id))
      = (compiled.targets.flatMap FileDescriptor.topMessages).map Declaration.label := by
    rw [selectedMessages, messages_ofCompiled hsub]
    refine map_filterMap_ids fun d hd => ?_
    obtain ⟨file, hfile, hd⟩ := List.mem_flatMap.1 hd
    obtain ⟨m, hm, hrep⟩ := hshows.message d
      (List.mem_flatMap.2 ⟨file, hsub.subset hfile, file.mem_declaredMessages_of_top hd⟩)
    exact ⟨m, hm, Prod.ext hrep.package hrep.id⟩
  have henums : (ofCompiled config compiled).selectedEnums.map (fun e => (e.package, e.id))
      = (compiled.targets.flatMap FileDescriptor.topEnums).map Declaration.label := by
    rw [selectedEnums, enums_ofCompiled hsub]
    refine map_filterMap_ids fun d hd => ?_
    obtain ⟨file, hfile, hd⟩ := List.mem_flatMap.1 hd
    obtain ⟨e, he, hrep⟩ := hshows.enum d
      (List.mem_flatMap.2 ⟨file, hsub.subset hfile, file.mem_declaredEnums_of_top hd⟩)
    exact ⟨e, he, Prod.ext hrep.package hrep.id⟩
  rw [GoCodec.selectedElements, hservices, hmessages, henums, CompiledFiles.labels]

/-- What is nested in a message of the table has the package of the message. -/
theorem package_of_inside (hids : DistinctIds compiled.files) {outer inner : Message} {id : String}
    (houter : (ofCompiled config compiled).symbols.message? id = some outer)
    (hinner : (ofCompiled config compiled).symbols.Inside inner outer) :
    inner.package = outer.package := by
  obtain ⟨d, hd, rfl, hrep⟩ := exists_represents_message hids houter
  obtain ⟨innerId, hlisted, hfound⟩ := List.mem_filterMap.1 hinner
  rw [hrep.messages] at hlisted
  obtain ⟨e, he, rfl⟩ := List.mem_map.1 hlisted
  obtain ⟨m, hm, hrepInner⟩ := (shows_ofCompiled hids.messages hids.enums).message e
    (FileDescriptor.children_declared hd he)
  obtain rfl : inner = m := Option.some.inj (hfound.symm.trans hm)
  calc inner.package
    _ = e.package := hrepInner.package
    _ = d.package := (Declaration.nested_of_mem_declare he).1
    _ = outer.package := hrep.package.symm

theorem package_of_enum (hids : DistinctIds compiled.files) {outer : Message} {e : Enum}
    {id : String} (houter : (ofCompiled config compiled).symbols.message? id = some outer)
    (he : e ∈ outer.enums.filterMap (ofCompiled config compiled).symbols.enum?) :
    e.package = outer.package := by
  obtain ⟨d, hd, rfl, hrep⟩ := exists_represents_message hids houter
  obtain ⟨enumId, hlisted, hfound⟩ := List.mem_filterMap.1 he
  rw [hrep.enums] at hlisted
  obtain ⟨c, hc, rfl⟩ := List.mem_map.1 hlisted
  obtain ⟨e', he', hrepEnum⟩ := (shows_ofCompiled hids.messages hids.enums).enum c
    (FileDescriptor.enums_declared hd hc)
  obtain rfl : e = e' := Option.some.inj (hfound.symm.trans he')
  calc e.package
    _ = c.package := hrepEnum.package
    _ = d.package := (Declaration.nested_of_mem_declare hc).1
    _ = outer.package := hrep.package.symm

/-- The package of the selected messages is that of all messages they lead to. -/
theorem package_of_reachesMessage (hids : DistinctIds compiled.files) {package : String}
    (h : ∀ m ∈ (ofCompiled config compiled).selectedMessages, m.package = package) {m : Message}
    (hm : (ofCompiled config compiled).ReachesMessage m) :
    (∃ id, (ofCompiled config compiled).symbols.message? id = some m) ∧ m.package = package := by
  obtain ⟨top, htop, hpath⟩ := hm
  induction hpath with
  | refl =>
      obtain ⟨id, -, hid⟩ := List.mem_filterMap.1 htop
      exact ⟨⟨id, hid⟩, h top htop⟩
  | tail _ hstep ih =>
      obtain ⟨⟨id, houter⟩, hpackage⟩ := ih
      obtain ⟨innerId, -, hinner⟩ := List.mem_filterMap.1 hstep
      exact ⟨⟨innerId, hinner⟩, (package_of_inside hids houter hstep).trans hpackage⟩

theorem package_of_reachesEnum (hids : DistinctIds compiled.files) {package : String}
    (hmessages : ∀ m ∈ (ofCompiled config compiled).selectedMessages, m.package = package)
    (henums : ∀ e ∈ (ofCompiled config compiled).selectedEnums, e.package = package) {e : Enum}
    (he : (ofCompiled config compiled).ReachesEnum e) : e.package = package := by
  rcases he with he | ⟨m, hm, he⟩
  · exact henums e he
  · obtain ⟨⟨id, hentry⟩, hpackage⟩ := package_of_reachesMessage hids hmessages hm
    exact (package_of_enum hids hentry he).trans hpackage

end Api

namespace GoCodec

/-- Validation of an API whose selected elements have the given labels says whether one package has
all of them, and names the first one that is not in the package of the very first.  If there is such
a package, it has everything that the elements lead to, of which all views are made. -/
structure ChecksPackages (api : Api) (labels : List (String × String)) : Prop where
  selected : selectedElements api = labels
  passes : validate api = .ok () ↔ ∃ package, ∀ x ∈ labels, x.1 = package
  messages : ∀ package, (∀ x ∈ labels, x.1 = package) →
    ∀ m, api.ReachesMessage m → m.package = package
  enums : ∀ package, (∀ x ∈ labels, x.1 = package) →
    ∀ e, api.ReachesEnum e → e.package = package
  messageRecords : ∀ (c : Codec) (view : ApiView), c.apiView api = .ok view →
    ∀ r ∈ view.messageRecords, ∃ m, api.ReachesMessage m ∧
      c.messageViewWith api.symbols m r.messages = .ok r
  enumRecords : ∀ (c : Codec) (view : ApiView), c.apiView api = .ok view →
    ∀ r ∈ view.enumRecords, ∃ e, api.ReachesEnum e ∧ r = c.enumView api.symbols e
  fails : ∀ error, validate api = .error error ↔ ∃ first before odd after,
    labels = first :: (before ++ odd :: after) ∧ (∀ x ∈ before, x.1 = first.1) ∧
      odd.1 ≠ first.1 ∧ error = .mixedPackages first.1 odd.1 odd.2

/-- **A look at the top is enough to find a mixed package.**  For files with distinct identifiers,
validation succeeds exactly when all services, messages and enums at the top level of the files to
generate from are in one package; then everything that is generated is in that package.  Otherwise
it fails with the first service, message or enum that is not in the package of the first one. -/
theorem checksPackages_ofCompiled (config : Option ServiceConfig) {compiled : CompiledFiles}
    (hsub : compiled.targets.Sublist compiled.files) (hids : DistinctIds compiled.files) :
    ChecksPackages (Api.ofCompiled config compiled) compiled.labels := by
  have hlabels := @Api.selectedElements_ofCompiled config compiled hsub hids
  have hmessages : ∀ package, (∀ x ∈ compiled.labels, x.1 = package) →
      ∀ m ∈ (Api.ofCompiled config compiled).selectedMessages, m.package = package := by
    intro package hall m hm
    refine hall (m.package, m.id) (hlabels ▸ ?_)
    exact List.mem_append_right _ (List.mem_append_left _ (List.mem_map_of_mem hm))
  have henums : ∀ package, (∀ x ∈ compiled.labels, x.1 = package) →
      ∀ e ∈ (Api.ofCompiled config compiled).selectedEnums, e.package = package := by
    intro package hall e he
    refine hall (e.package, e.id) (hlabels ▸ ?_)
    exact List.mem_append_right _ (List.mem_append_right _ (List.mem_map_of_mem he))
  refine ⟨hlabels, ?passes, ?messages, ?enums, ?messageRecords, ?enumRecords, ?fails⟩
  case passes => rw [validate_eq_ok_iff, hlabels]
  case messages =>
    intro package hall m hm
    exact (Api.package_of_reachesMessage hids (hmessages package hall) hm).2
  case enums =>
    intro package hall e he
    exact Api.package_of_reachesEnum hids (hmessages package hall) (henums package hall) he
  case messageRecords => exact fun c view hview => (Codec.reached_of_apiView hview).1
  case enumRecords => exact fun c view hview => (Codec.reached_of_apiView hview).2
  case fails =>
    intro error
    rw [validate_eq_error_iff, hlabels]

end GoCodec

/-! ### An example -/

/-- The library with its imports, which are in another package. -/
def wholeLibrary : CompiledFiles where
  targets := libraryFiles
  files := libraryFiles

theorem wholeLibrary_mixed :
    wholeLibrary.targets.Sublist wholeLibrary.files ∧ DistinctIds wholeLibrary.files ∧
      GoCodec.ChecksPackages (Api.ofCompiled none wholeLibrary) wholeLibrary.labels ∧
      GoCodec.validate (Api.ofCompiled none wholeLibrary)
        = .error (.mixedPackages "library.v1" "" ".Shelf") := by
  have hsub : wholeLibrary.targets.Sublist wholeLibrary.files := List.Sublist.refl _
  have hids : DistinctIds wholeLibrary.files := ⟨by decide, by decide, by decide⟩
  have hchecks := GoCodec.checksPackages_ofCompiled none hsub hids
  refine ⟨hsub, hids, hchecks, (hchecks.fails _).2 ?_⟩
  exact ⟨("library.v1", ".library.v1.Book"), [], ("", ".Shelf"),
    [("library.v1", ".library.v1.Genre"), ("", ".Size")], by decide, by decide, by decide, rfl⟩

end ClientGen
