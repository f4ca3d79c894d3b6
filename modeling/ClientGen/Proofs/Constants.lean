import ClientGen.Proofs.AsciiText
import ClientGen.Proofs.TypeNames

/-!
# Go constants of enum values

The constants of all enums of a package share one scope in Go.  A constant is made of the names of
the messages around its enum and of the name of the value, joined by underscores; the name of the
enum is left out.  The name of a value may have underscores, too, so the join can be read in more
than one way.

* `Naming.joined` — names before another one, and when two joins are the same
  (`Naming.joined_eq_iff`).
* `ValueDeclaration`, `declaredValues` — the values of the enums of some files, in one list.
* `GoCodec.constantName?_eq` — the constant of a declared value, spelled out.
* `GoCodec.Shadows` — the name of a value is made of the names of messages further in and of the
  name of a value there.
* `GoCodec.constantNames_eq_iff` — these values have the same constant, and no others have.
-/

namespace ClientGen

/-! ## Names of values -/

namespace Naming

/-- Capitals, digits and underscores, with a letter at the beginning. -/
structure IsConstant (name : String) : Prop where
  head : name.toList.head?.any Char.isUpper = true
  all : ∀ c ∈ name.toList, c.isUpper = true ∨ c.isDigit = true ∨ c = '_'

instance (name : String) : Decidable (IsConstant name) :=
  decidable_of_iff (name.toList.head?.any Char.isUpper = true ∧
      name.toList.all (fun c => c.isUpper || c.isDigit || c == '_') = true)
    ⟨fun h => ⟨h.1, by simpa [or_assoc] using h.2⟩,
      fun h => ⟨h.head, by simpa [or_assoc] using h.all⟩⟩

/-- Upper casing leaves the name of a constant as it is. -/
theorem toUppercase_of_isConstant {name : String} (h : IsConstant name) :
    toUppercase name = name := by
  have hupper : ∀ c ∈ name.toList, Text.upperOf c = [c] := by
    intro c hc
    have hplain := h.all c hc
    have hascii : c.toNat < 128 := by
      rcases hplain with hupper | hdigit | rfl
      · have hrange := Text.isUpper_iff_toNat.1 hupper
        omega
      · have hrange := Text.isDigit_iff_toNat.1 hdigit
        omega
      · decide
    have htable : ∀ c : Char, c.toNat < 128 →
        c.isUpper = true ∨ c.isDigit = true ∨ c = '_' → Text.upperOf c = [c] :=
      Text.forall_ascii (by decide +kernel)
    exact htable c hascii hplain
  rw [toUppercase, Text.uppercase, List.flatMap_congr hupper, List.flatMap_singleton',
    String.ofList_toList]

theorem dot_notMem_of_isConstant {name : String} (h : IsConstant name) : '.' ∉ name.toList := by
  intro hdot
  have hplain := h.all '.' hdot
  revert hplain
  decide

/-! ## Joins -/

/-- Names, then another one, with underscores between. -/
def joined (enclosing : List String) (name : String) : String :=
  "_".intercalate (enclosing ++ [name])

theorem joined_nil (name : String) : joined [] name = name :=
  String.intercalate_singleton

theorem joined_cons (first : String) (enclosing : List String) (name : String) :
    joined (first :: enclosing) name = first ++ "_" ++ joined enclosing name :=
  String.intercalate_cons_of_ne_nil (by simp)

theorem joined_append (enclosing inner : List String) (name : String) :
    joined (enclosing ++ inner) name = joined enclosing (joined inner name) := by
  simp only [joined, List.append_assoc]
  cases enclosing with
  | nil => simp
  | cons first rest =>
      rw [String.intercalate_append_of_ne_nil (List.cons_ne_nil _ _) (by simp),
        String.intercalate_append_of_ne_nil (List.cons_ne_nil _ _) (by simp),
        String.intercalate_singleton]

/-- What stands before the first underscore can be told from what stands behind it. -/
theorem append_underscore_inj {first first' rest rest' : String} (h : '_' ∉ first.toList)
    (h' : '_' ∉ first'.toList) (heq : first ++ "_" ++ rest = first' ++ "_" ++ rest') :
    first = first' ∧ rest = rest' := by
  have hlists : first.toList ++ '_' :: rest.toList = first'.toList ++ '_' :: rest'.toList := by
    simpa using congrArg String.toList heq
  have hrun : ∀ text : String, '_' ∉ text.toList → ∀ x ∈ text.toList, (x != '_') = true := by
    intro text htext x hx
    simpa using ne_of_mem_of_not_mem hx htext
  obtain ⟨hfirst, hrest⟩ := Text.append_inj_of_run (hrun first h) (hrun first' h') (by simp)
    (by simp) hlists
  exact ⟨String.toList_inj.1 hfirst, String.toList_inj.1 (List.cons.inj hrest).2⟩

/-- **Two joins are the same** if one has some names more in front, and the name that ends the other
is made of them. -/
theorem joined_eq_iff {ns ns' : List String} {name name' : String}
    (hns : ∀ n ∈ ns, '_' ∉ n.toList) (hns' : ∀ n ∈ ns', '_' ∉ n.toList) :
    joined ns name = joined ns' name' ↔
      (∃ inner, ns' = ns ++ inner ∧ name = joined inner name') ∨
        ∃ inner, ns = ns' ++ inner ∧ name' = joined inner name := by
  constructor
  · intro h
    induction ns generalizing ns' with
    | nil => exact Or.inl ⟨ns', rfl, by rwa [joined_nil] at h⟩
    | cons first ns ih =>
        cases ns' with
        | nil => exact Or.inr ⟨first :: ns, rfl, by rw [h, joined_nil]⟩
        | cons first' ns' =>
            rw [joined_cons, joined_cons] at h
            obtain ⟨rfl, hrest⟩ := append_underscore_inj (hns first (List.mem_cons_self ..))
              (hns' first' (List.mem_cons_self ..)) h
            refine (ih (fun n hn => hns n (List.mem_cons_of_mem _ hn))
              (fun n hn => hns' n (List.mem_cons_of_mem _ hn)) hrest).imp ?_ ?_
            · rintro ⟨inner, rfl, hname⟩
              exact ⟨inner, rfl, hname⟩
            · rintro ⟨inner, rfl, hname⟩
              exact ⟨inner, rfl, hname⟩
  · rintro (⟨inner, rfl, rfl⟩ | ⟨inner, rfl, rfl⟩)
    · exact (joined_append ns inner name').symm
    · exact joined_append ns' inner name

end Naming

/-! ## Declared values -/

/-- A value at its place in a declared enum. -/
structure ValueDeclaration where
  enum : Declaration EnumDescriptor
  index : Nat
  value : EnumValueDescriptor

namespace ValueDeclaration

variable (v : ValueDeclaration)

/-- The package of the file. -/
def package : String := v.enum.package

/-- The names of the messages around the enum, the outermost first. -/
def enclosing : List String := v.enum.enclosing

/-- The own name. -/
def name : String := nameOf v.value

/-- The name in the scope that all enums directly in a message share, or all enums at the top level
of a package. -/
def scopedName : String × List String × String := (v.package, v.enclosing, v.name)

end ValueDeclaration

/-- The values of the enums of some files. -/
def declaredValues (files : List FileDescriptor) : List ValueDeclaration :=
  (files.flatMap FileDescriptor.declaredEnums).flatMap fun d =>
    d.item.values.zipIdx.map fun (value, index) => ⟨d, index, value⟩

theorem mem_declaredValues {files : List FileDescriptor} {v : ValueDeclaration} :
    v ∈ declaredValues files ↔ v.enum ∈ files.flatMap FileDescriptor.declaredEnums ∧
      v.enum.item.values[v.index]? = some v.value := by
  simp only [declaredValues, List.mem_flatMap, List.mem_map, Prod.exists]
  constructor
  · rintro ⟨d, hd, value, index, hvalue, rfl⟩
    exact ⟨hd, List.mk_mem_zipIdx_iff_getElem?.1 hvalue⟩
  · rintro ⟨hd, hvalue⟩
    exact ⟨v.enum, hd, v.value, v.index, List.mk_mem_zipIdx_iff_getElem?.2 hvalue, rfl⟩

/-- No two types share an identifier.  Messages and enums are named in Pascal case and values in
capitals, and no two values of a scope have the same name. -/
structure ConventionalNames (files : List FileDescriptor) : Prop where
  ids : ((declaredTypes files).map TypeDeclaration.id).Nodup
  types : ∀ d ∈ declaredTypes files, Naming.toPascalCase d.name = d.name
  values : ∀ v ∈ declaredValues files, Naming.IsConstant v.name
  scopes : ((declaredValues files).map ValueDeclaration.scopedName).Nodup

namespace ConventionalNames

variable {files : List FileDescriptor} {v : ValueDeclaration}

theorem dot_notMem (h : ConventionalNames files) (hv : v ∈ declaredValues files) :
    '.' ∉ v.name.toList :=
  Naming.dot_notMem_of_isConstant (h.values v hv)

theorem toPascalCase_of_mem_chain (h : ConventionalNames files) :
    ∀ d ∈ declaredTypes files, ∀ n ∈ d.chain, Naming.toPascalCase n = n :=
  forall_mem_chain h.types

theorem map_toPascalCase_chain (h : ConventionalNames files) {d : Declaration MessageDescriptor}
    (hd : d ∈ files.flatMap FileDescriptor.declaredMessages) :
    d.chain.map Naming.toPascalCase = d.chain := by
  have hfixed : ∀ n ∈ d.chain, Naming.toPascalCase n = n :=
    h.toPascalCase_of_mem_chain (.message d) (message_mem_declaredTypes.2 hd)
  rw [List.map_congr_left hfixed, List.map_id']

/-- No message has an underscore in its name. -/
theorem underscore_notMem (h : ConventionalNames files) (hv : v ∈ declaredValues files) :
    ∀ n ∈ v.enclosing, '_' ∉ n.toList := by
  intro n hn
  have hdeclared := enum_mem_declaredTypes.2 (mem_declaredValues.1 hv).1
  have hfixed := h.toPascalCase_of_mem_chain _ hdeclared n (List.mem_append_left _ hn)
  rw [← hfixed]
  exact Naming.underscore_notMem_toPascalCase n

theorem scopedName_ne (h : ConventionalNames files) {w : ValueDeclaration}
    (hv : v ∈ declaredValues files) (hw : w ∈ declaredValues files) (hne : v ≠ w) :
    v.scopedName ≠ w.scopedName :=
  fun heq => hne (List.inj_on_of_nodup_map h.scopes hv hw heq)

end ConventionalNames

/-- The table of an API has every declared value at its place. -/
theorem Api.exists_value_ofCompiled {config : Option ServiceConfig} {compiled : CompiledFiles}
    (he : ((compiled.files.flatMap FileDescriptor.declaredEnums).map Declaration.id).Nodup)
    {v : ValueDeclaration} (hv : v ∈ declaredValues compiled.files) :
    ∃ e value, (ofCompiled config compiled).symbols.enum? v.enum.id = some e ∧
      e.parent = v.enum.parent ∧ e.values[v.index]? = some value ∧ value.name = v.name ∧
        value.parent = v.enum.id := by
  obtain ⟨hd, hvalue⟩ := mem_declaredValues.1 hv
  have hfiles := (SymbolTable.registers_ofFiles compiled.files).enum he v.enum hd
  have hmap := @undocumented_enum?_ofCompiled config compiled v.enum.id
  rw [hfiles, Option.map_some, Enum.undocumented_ofDescriptor, Option.map_eq_some_iff] at hmap
  obtain ⟨e, henum, hmade⟩ := hmap
  have hparent : e.parent = v.enum.parent := congrArg Enum.parent hmade
  have hvalues : e.values.map EnumValue.undocumented = EnumValue.ofEnum v.enum.id v.enum.item :=
    congrArg Enum.values hmade
  have hplace := congrArg (·[v.index]?) hvalues
  simp only [List.getElem?_map, EnumValue.ofEnum, hvalue, Option.map_some,
    Option.map_eq_some_iff] at hplace
  obtain ⟨value, hget, hsame⟩ := hplace
  exact ⟨e, value, henum, hparent, hget, congrArg EnumValue.name hsame,
    congrArg EnumValue.parent hsame⟩

/-! ## Constants -/

namespace GoCodec

variable (c : GoCodec) {t : SymbolTable} {files : List FileDescriptor}

/-- The constant that a table gives to a declared value. -/
def constantName? (t : SymbolTable) (v : ValueDeclaration) : Option String :=
  ((t.enum? v.enum.id).bind fun e => e.values[v.index]?).map (c.enumValueName t)

/-- The alias of the package, in front of what is inside of a message.  A constant at the top level
has none. -/
def constantQualifier (package : String) (enclosing : List String) : String :=
  if enclosing = [] then "" else c.qualifier package

/-- The constant of a value, made of the messages around it and its name. -/
def constant (package : String) (enclosing : List String) (name : String) : String :=
  c.constantQualifier package enclosing ++ Naming.joined enclosing name

theorem dot_mem_qualifier {package : String} (h : c.packageAlias package ≠ none) :
    '.' ∈ (c.qualifier package).toList := by
  obtain ⟨target, htarget⟩ := Option.ne_none_iff_exists'.1 h
  simp [qualifier, htarget]

/-- A constant inside of a message is never one at the top level if the package has an alias. -/
theorem alias_eq_none_of_constant_eq {package : String} {enclosing : List String}
    {name name' : String} (hname : '.' ∉ name.toList)
    (h : name = c.qualifier package ++ Naming.joined enclosing name') :
    c.packageAlias package = none := by
  by_contra halias
  refine hname ?_
  rw [h, String.toList_append]
  exact List.mem_append_left _ (c.dot_mem_qualifier halias)

/-- Constants of a package are the same if the joins are, and the alias of the package does not
stand in front of one of them alone. -/
theorem constant_eq_iff {package : String} {enclosing enclosing' : List String}
    {name name' : String} (hname : '.' ∉ name.toList) (hname' : '.' ∉ name'.toList) :
    c.constant package enclosing name = c.constant package enclosing' name' ↔
      Naming.joined enclosing name = Naming.joined enclosing' name' ∧
        ((enclosing = [] ↔ enclosing' = []) ∨ c.packageAlias package = none) := by
  unfold constant constantQualifier
  by_cases h : enclosing = []
  · by_cases h' : enclosing' = []
    · simp [h, h']
    · subst h
      simp only [h', if_true, if_false, Naming.joined_nil, String.empty_append, true_iff, false_or]
      constructor
      · intro heq
        have halias := c.alias_eq_none_of_constant_eq hname heq
        rw [c.qualifier_eq_empty_iff.2 halias, String.empty_append] at heq
        exact ⟨heq, halias⟩
      · rintro ⟨heq, halias⟩
        rw [c.qualifier_eq_empty_iff.2 halias, String.empty_append, heq]
  · by_cases h' : enclosing' = []
    · subst h'
      simp only [h, if_true, if_false, Naming.joined_nil, String.empty_append, iff_true, false_or]
      constructor
      · intro heq
        have halias := c.alias_eq_none_of_constant_eq hname' heq.symm
        rw [c.qualifier_eq_empty_iff.2 halias, String.empty_append] at heq
        exact ⟨heq, halias⟩
      · rintro ⟨heq, halias⟩
        rw [c.qualifier_eq_empty_iff.2 halias, String.empty_append, heq]
    · simp [h, h']

/-- **The constant of a declared value** is made of the names along the nesting of its enum. -/
theorem constantName?_eq (config : Option ServiceConfig) {compiled : CompiledFiles}
    (h : ConventionalNames compiled.files) {v : ValueDeclaration}
    (hv : v ∈ declaredValues compiled.files) :
    c.constantName? (Api.ofCompiled config compiled).symbols v
      = some (c.constant v.package v.enclosing v.name) := by
  obtain ⟨hm, he⟩ := nodup_ids_of_declaredTypes h.ids
  obtain ⟨hd, -⟩ := mem_declaredValues.1 hv
  obtain ⟨e, value, henum, hparent, hvalue, hvalueName, hvalueParent⟩ :=
    @Api.exists_value_ofCompiled config compiled he v hv
  rw [constantName?, henum, Option.bind_some, hvalue, Option.map_some, Option.some_inj,
    enumValueName, hvalueParent, henum, Option.bind_some, hparent, hvalueName,
    Naming.toUppercase_of_isConstant (h.values v hv), constant, constantQualifier]
  rcases FileDescriptor.enum_parent_cases hd with htop | ⟨d, hd, hmem⟩
  · have henclosing : v.enclosing = [] := Position.enclosing_of_parent htop
    simp [htop, henclosing, Naming.joined_nil]
  · obtain ⟨outer, houter, houterName⟩ := c.messageName_eq_chainName
      (Api.linked_ofCompiled config compiled).acyclic (Api.shows_ofCompiled hm he) d hd
    obtain ⟨hpackage, henclosing⟩ := Declaration.nested_of_mem_declare hmem
    have hchain : v.enclosing = d.chain := henclosing
    rw [Declaration.parent_of_mem_declare hmem, Declaration.parent_inside, Option.bind_some,
      houter, if_neg (hchain ▸ d.chain_ne_nil), hchain, Naming.joined,
      String.intercalate_append_of_ne_nil d.chain_ne_nil (List.cons_ne_nil _ _),
      String.intercalate_singleton]
    simp only [houterName, chainName, h.map_toPascalCase_chain hd, String.append_assoc]
    rw [ValueDeclaration.package, hpackage]

/-- The value `v` has the name of a value further in: `w` belongs to an enum in a message that is
nested in the scope of `v`, and the name of `v` is made of the names of the messages on the way and
of that of `w`.  At the top level this takes a package without alias. -/
def Shadows (v w : ValueDeclaration) : Prop :=
  ∃ inner ≠ [], w.enclosing = v.enclosing ++ inner ∧ v.name = Naming.joined inner w.name ∧
    (v.enclosing = [] → c.packageAlias v.package = none)

variable {c} in
theorem constant_eq_of_shadows {v w : ValueDeclaration} (hpackage : v.package = w.package)
    (hv : '.' ∉ v.name.toList) (hw : '.' ∉ w.name.toList) (h : c.Shadows v w) :
    c.constant v.package v.enclosing v.name = c.constant w.package w.enclosing w.name := by
  obtain ⟨inner, hinner, henclosing, hname, halias⟩ := h
  rw [← hpackage, c.constant_eq_iff hv hw, henclosing, hname, Naming.joined_append]
  refine ⟨rfl, ?_⟩
  by_cases htop : v.enclosing = []
  · exact Or.inr (halias htop)
  · simp [htop]

/-- Values of a scope each, with the same join, shadow one another. -/
theorem shadows_of_joined {v w : ValueDeclaration} {inner : List String}
    (hne : v.scopedName ≠ w.scopedName) (hpackage : v.package = w.package)
    (henclosing : w.enclosing = v.enclosing ++ inner) (hname : v.name = Naming.joined inner w.name)
    (halias : (v.enclosing = [] ↔ w.enclosing = []) ∨ c.packageAlias v.package = none) :
    c.Shadows v w := by
  have hinner : inner ≠ [] := by
    rintro rfl
    rw [List.append_nil] at henclosing
    rw [Naming.joined_nil] at hname
    exact hne (by simp [ValueDeclaration.scopedName, hpackage, henclosing, hname])
  refine ⟨inner, hinner, henclosing, hname, fun htop => ?_⟩
  simpa [htop, henclosing, hinner] using halias

/-- **Two values of a package have the same constant only if one shadows the other.**  When the
names of the files are conventional, the constant of each value is made of the names around it and
its own.  Two values of a package have the same one if and only if the name of one is made of the
names of messages further in and of the name of the other. -/
theorem constantNames_eq_iff (config : Option ServiceConfig) {compiled : CompiledFiles}
    (h : ConventionalNames compiled.files) :
    (∀ v ∈ declaredValues compiled.files,
      c.constantName? (Api.ofCompiled config compiled).symbols v
        = some (c.constant v.package v.enclosing v.name)) ∧
    ∀ v ∈ declaredValues compiled.files, ∀ w ∈ declaredValues compiled.files,
      v ≠ w → v.package = w.package →
        (c.constantName? (Api.ofCompiled config compiled).symbols v
            = c.constantName? (Api.ofCompiled config compiled).symbols w ↔
          c.Shadows v w ∨ c.Shadows w v) := by
  refine ⟨fun v hv => c.constantName?_eq config h hv, fun v hv w hw hne hpackage => ?_⟩
  have hscoped := h.scopedName_ne hv hw hne
  have hvdot := h.dot_notMem hv
  have hwdot := h.dot_notMem hw
  rw [c.constantName?_eq config h hv, c.constantName?_eq config h hw, Option.some_inj]
  constructor
  · intro heq
    rw [← hpackage, c.constant_eq_iff hvdot hwdot] at heq
    obtain ⟨hjoined, halias⟩ := heq
    rcases (Naming.joined_eq_iff (h.underscore_notMem hv) (h.underscore_notMem hw)).1 hjoined with
      ⟨inner, henclosing, hinner⟩ | ⟨inner, henclosing, hinner⟩
    · exact Or.inl (c.shadows_of_joined hscoped hpackage henclosing hinner halias)
    · refine Or.inr (c.shadows_of_joined hscoped.symm hpackage.symm henclosing hinner ?_)
      rwa [← hpackage, iff_comm (a := w.enclosing = [])]
  · rintro (hshadows | hshadows)
    · exact constant_eq_of_shadows hpackage hvdot hwdot hshadows
    · exact (constant_eq_of_shadows hpackage.symm hwdot hvdot hshadows).symm

end GoCodec

/-- A message with an enum in it, and an enum beside it. -/
def webFiles : CompiledFiles :=
  let web : FileDescriptor :=
    { package := some "web"
      messageTypes :=
        [{ name := some "HTTP"
           enumTypes := [{ name := some "Code", values := [{ name := some "OK" }] }] }]
      enumTypes :=
        [{ name := some "Outcome"
           values := [{ name := some "HTTP_OK" }, { name := some "FAILED" }] }] }
  { targets := [web], files := [web] }

theorem webFiles_conventional : ConventionalNames webFiles.files where
  ids := by decide
  types := by decide +kernel
  values := by decide +kernel
  scopes := by decide

theorem webFiles_constants :
    ConventionalNames webFiles.files ∧
      ∀ v ∈ declaredValues webFiles.files, ∀ w ∈ declaredValues webFiles.files,
        v ≠ w → v.package = w.package →
          (({ year := "2024" } : GoCodec).constantName? (Api.ofCompiled none webFiles).symbols v
              = ({ year := "2024" } : GoCodec).constantName? (Api.ofCompiled none webFiles).symbols
                  w ↔
            ({ year := "2024" } : GoCodec).Shadows v w ∨
              ({ year := "2024" } : GoCodec).Shadows w v) :=
  ⟨webFiles_conventional,
    (GoCodec.constantNames_eq_iff { year := "2024" } none webFiles_conventional).2⟩

/-- Conventional names do not keep all constants of a package apart: a value within the message and
one beside it have the same. -/
theorem httpOk_clashes :
    ConventionalNames webFiles.files ∧
      ∃ v ∈ declaredValues webFiles.files, ∃ w ∈ declaredValues webFiles.files,
        v ≠ w ∧ v.package = w.package ∧
          ({ year := "2024" } : GoCodec).constantName? (Api.ofCompiled none webFiles).symbols v
            = some "HTTP_OK" ∧
          ({ year := "2024" } : GoCodec).constantName? (Api.ofCompiled none webFiles).symbols w
            = some "HTTP_OK" := by
  refine ⟨webFiles_conventional, (declaredValues webFiles.files).get ⟨0, by decide⟩,
    List.get_mem _ _, (declaredValues webFiles.files).get ⟨2, by decide⟩, List.get_mem _ _,
    fun heq => ?_, by decide, by decide +kernel, by decide +kernel⟩
  exact absurd (congrArg ValueDeclaration.name heq) (by decide)

end ClientGen
