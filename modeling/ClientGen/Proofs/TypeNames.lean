import ClientGen.Proofs.GoTypes
import ClientGen.Proofs.GoNames

/-!
# Go names of the types of a package

Messages and enums, nested or not, share one scope in Go.  Their names are the names along the
nesting, joined by underscores.  No name in Pascal case has an underscore, so the joined name can be
taken apart again, and what is declared apart is named apart.

* `TypeDeclaration`, `declaredTypes` — the messages and the enums of some files, in one list.
* `FileDescriptor.declared_induction` — what passes from a message to those nested in it holds of
  every declared message once it holds at the top level.
* `GoCodec.typeName?_eq` — the Go name of a declared type, spelled out.
* `GoCodec.typeNames_distinct` — two types of a package have different Go names.
-/

namespace ClientGen

/-! ## Declared types -/

/-- A position outside of all messages. -/
theorem Position.enclosing_of_parent {p : Position} (h : p.parent = none) : p.enclosing = [] := by
  rw [parent] at h
  split at h
  · rename_i hempty
    exact List.isEmpty_iff.1 hempty
  · cases h

namespace FileDescriptor

variable {files : List FileDescriptor}

/-- What holds at the top level and passes from a message to its children holds of every declared
message. -/
theorem declared_induction {P : Declaration MessageDescriptor → Prop}
    (top : ∀ d ∈ files.flatMap declaredMessages, d.parent = none → P d)
    (child : ∀ d ∈ files.flatMap declaredMessages, P d → ∀ e ∈ d.children, P e) :
    ∀ d ∈ files.flatMap declaredMessages, P d := by
  intro d hd
  -- on the depth of the nesting
  induction hdepth : d.enclosing.length generalizing d with
  | zero =>
      refine top d hd ?_
      rw [Position.parent, List.length_eq_zero_iff.1 hdepth]
      rfl
  | succ depth ih =>
      rcases parent_cases hd with htop | ⟨c, hc, hchild⟩
      · exact top d hd htop
      · have hnested := (Declaration.nested_of_mem_declare hchild).2
        rw [hnested, Declaration.chain, List.length_append, List.length_singleton] at hdepth
        exact child c hc (ih c hc (Nat.succ.inj hdepth)) d hchild

end FileDescriptor

/-- A message or an enum at its place. -/
inductive TypeDeclaration
  | message (d : Declaration MessageDescriptor)
  | enum (d : Declaration EnumDescriptor)

namespace TypeDeclaration

/-- The identifier of the type. -/
def id : TypeDeclaration → String
  | message d => d.id
  | enum d => d.id

/-- The package of the file. -/
def package : TypeDeclaration → String
  | message d => d.package
  | enum d => d.package

/-- The own name. -/
def name : TypeDeclaration → String
  | message d => nameOf d.item
  | enum d => nameOf d.item

/-- The names of the enclosing messages and the own name, the outermost first. -/
def chain : TypeDeclaration → List String
  | message d => d.chain
  | enum d => d.chain

theorem chain_ne_nil (d : TypeDeclaration) : d.chain ≠ [] := by
  cases d with
  | message d => exact d.chain_ne_nil
  | enum d => exact d.chain_ne_nil

theorem id_eq_foldl (d : TypeDeclaration) :
    d.id = d.chain.foldl Identifier.child (Identifier.ofPackage d.package) := by
  cases d with
  | message d => exact d.id_eq_foldl
  | enum d => exact d.id_eq_foldl

end TypeDeclaration

/-- The messages of some files, then the enums. -/
def declaredTypes (files : List FileDescriptor) : List TypeDeclaration :=
  (files.flatMap FileDescriptor.declaredMessages).map .message ++
    (files.flatMap FileDescriptor.declaredEnums).map .enum

section DeclaredTypes

variable {files : List FileDescriptor}

@[simp] theorem message_mem_declaredTypes {d : Declaration MessageDescriptor} :
    .message d ∈ declaredTypes files ↔ d ∈ files.flatMap FileDescriptor.declaredMessages := by
  simp [declaredTypes]

@[simp] theorem enum_mem_declaredTypes {d : Declaration EnumDescriptor} :
    .enum d ∈ declaredTypes files ↔ d ∈ files.flatMap FileDescriptor.declaredEnums := by
  simp [declaredTypes]

/-- When no two types share an identifier, no two messages do and no two enums. -/
theorem nodup_ids_of_declaredTypes (h : ((declaredTypes files).map TypeDeclaration.id).Nodup) :
    ((files.flatMap FileDescriptor.declaredMessages).map Declaration.id).Nodup ∧
      ((files.flatMap FileDescriptor.declaredEnums).map Declaration.id).Nodup := by
  rw [declaredTypes, List.map_append, List.map_map, List.map_map] at h
  exact ⟨h.of_append_left, h.of_append_right⟩

/-- A property of all names holds along every chain. -/
theorem forall_mem_chain {P : String → Prop} (h : ∀ d ∈ declaredTypes files, P d.name) :
    ∀ d ∈ declaredTypes files, ∀ n ∈ d.chain, P n := by
  have hmessages : ∀ d ∈ files.flatMap FileDescriptor.declaredMessages, ∀ n ∈ d.chain, P n := by
    refine FileDescriptor.declared_induction ?top ?child
    case top =>
      intro d hd htop n hn
      rw [Declaration.chain, Position.enclosing_of_parent htop, List.nil_append,
        List.mem_singleton] at hn
      subst hn
      exact h (.message d) (message_mem_declaredTypes.2 hd)
    case child =>
      intro d hd ih e he n hn
      have hdeclared := FileDescriptor.children_declared hd he
      rw [Declaration.chain, (Declaration.nested_of_mem_declare he).2, List.mem_append,
        List.mem_singleton] at hn
      rcases hn with hn | rfl
      · exact ih n hn
      · exact h (.message e) (message_mem_declaredTypes.2 hdeclared)
  rintro (d | e) hmem n hn
  · exact hmessages d (message_mem_declaredTypes.1 hmem) n hn
  · rcases List.mem_append.1 hn with hn | hn
    · rcases FileDescriptor.enum_parent_cases (enum_mem_declaredTypes.1 hmem) with
        htop | ⟨d, hd, he⟩
      · rw [Position.enclosing_of_parent htop] at hn
        cases hn
      · rw [(Declaration.nested_of_mem_declare he).2] at hn
        exact hmessages d hd n hn
    · rw [List.mem_singleton.1 hn]
      exact h (.enum e) hmem

end DeclaredTypes

/-! ## Tables that show the declared types -/

/-- The table has every declared message and every declared enum, with its names and links. -/
structure SymbolTable.Shows (t : SymbolTable) (files : List FileDescriptor) : Prop where
  message : ∀ d ∈ files.flatMap FileDescriptor.declaredMessages,
    ∃ m, t.message? d.id = some m ∧ m.Represents d
  enum : ∀ d ∈ files.flatMap FileDescriptor.declaredEnums,
    ∃ e, t.enum? d.id = some e ∧ e.Represents d

namespace Api

variable {config : Option ServiceConfig} {compiled : CompiledFiles}

/-- The table of an API shows the types of all files. -/
theorem shows_ofCompiled
    (hm : ((compiled.files.flatMap FileDescriptor.declaredMessages).map Declaration.id).Nodup)
    (he : ((compiled.files.flatMap FileDescriptor.declaredEnums).map Declaration.id).Nodup) :
    (ofCompiled config compiled).symbols.Shows compiled.files where
  message d hd := by
    obtain ⟨n, hn, hrep⟩ := (SymbolTable.entered_ofFiles hm d hd).represented
    have hmap := @undocumented_message?_ofCompiled config compiled d.id
    rw [hn, Option.map_some, Option.map_eq_some_iff] at hmap
    obtain ⟨m, hmessage, heq⟩ := hmap
    refine ⟨m, hmessage, ?_⟩
    rw [← Message.represents_undocumented, heq, Message.represents_undocumented]
    exact hrep
  enum d hd := by
    obtain ⟨n, hn, hrep⟩ := SymbolTable.enum?_ofFiles he d hd
    have hmap := @undocumented_enum?_ofCompiled config compiled d.id
    rw [hn, Option.map_some, Option.map_eq_some_iff] at hmap
    obtain ⟨e, henum, heq⟩ := hmap
    refine ⟨e, henum, ?_⟩
    rw [← Enum.represents_undocumented, heq, Enum.represents_undocumented]
    exact hrep

/-- A message in the table of an API stands for a declaration. -/
theorem exists_represents_message (hids : DistinctIds compiled.files) {id : String} {m : Message}
    (hm : (ofCompiled config compiled).symbols.message? id = some m) :
    ∃ d ∈ compiled.files.flatMap FileDescriptor.declaredMessages, d.id = id ∧ m.Represents d := by
  have hid := (isSome_message?_ofCompiled id).1 (by rw [hm, Option.isSome_some])
  obtain ⟨d, hd, rfl⟩ := List.mem_map.1 hid
  obtain ⟨m', hm', hrep⟩ := (shows_ofCompiled hids.messages hids.enums).message d hd
  obtain rfl : m = m' := Option.some.inj (hm.symm.trans hm')
  exact ⟨d, hd, rfl, hrep⟩

theorem exists_represents_enum (hids : DistinctIds compiled.files) {id : String} {e : Enum}
    (he : (ofCompiled config compiled).symbols.enum? id = some e) :
    ∃ d ∈ compiled.files.flatMap FileDescriptor.declaredEnums, d.id = id ∧ e.Represents d := by
  have hid := (isSome_enum?_ofCompiled id).1 (by rw [he, Option.isSome_some])
  obtain ⟨d, hd, rfl⟩ := List.mem_map.1 hid
  obtain ⟨e', he', hrep⟩ := (shows_ofCompiled hids.messages hids.enums).enum d hd
  obtain rfl : e = e' := Option.some.inj (he.symm.trans he')
  exact ⟨d, hd, rfl, hrep⟩

end Api

/-! ## Joined names -/

/-- Names without underscores can be told from their join. -/
theorem Naming.intercalate_underscore_inj {ns ns' : List String} (hns : ns ≠ []) (hns' : ns' ≠ [])
    (hfree : ∀ n ∈ ns, '_' ∉ n.toList) (hfree' : ∀ n ∈ ns', '_' ∉ n.toList)
    (h : "_".intercalate ns = "_".intercalate ns') : ns = ns' := by
  have hsplit : ∀ l : List String, l ≠ [] → (∀ n ∈ l, '_' ∉ n.toList) →
      ("_".intercalate l).toList.splitOn '_' = l.map String.toList := by
    intro l hl hlfree
    have hunderscore : "_".toList = ['_'] := rfl
    rw [String.toList_intercalate, hunderscore, List.splitOn_intercalate]
    · exact List.forall_mem_map.2 hlfree
    · exact fun hnil => hl (List.map_eq_nil_iff.1 hnil)
  have hlists : ns.map String.toList = ns'.map String.toList := by
    rw [← hsplit ns hns hfree, h, hsplit ns' hns' hfree']
  exact List.map_injective_iff.2 (fun _ _ => String.toList_inj.1) hlists

/-! ## Names -/

namespace GoCodec

variable (c : GoCodec) {t : SymbolTable} {files : List FileDescriptor}

/-- The Go name that a table gives to a declared type. -/
def typeName? (t : SymbolTable) : TypeDeclaration → Option String
  | .message d => (t.message? d.id).map (c.messageName t)
  | .enum d => (t.enum? d.id).map (c.enumName t)

/-- The names of a chain in Pascal case, joined by underscores, after the alias of the package. -/
def chainName (package : String) (chain : List String) : String :=
  c.qualifier package ++ "_".intercalate (chain.map Naming.toPascalCase)

theorem chainName_singleton (package name : String) :
    c.chainName package [name] = c.qualifier package ++ Naming.toPascalCase name := by
  rw [chainName, List.map_singleton, String.intercalate_singleton]

theorem enumName_of_top {e : Enum} (h : e.parent.bind t.message? = none) :
    c.enumName t e = c.qualifier e.package ++ Naming.toPascalCase e.name := by
  rw [enumName, h]
  exact c.topLevelName_eq e.package e.name

theorem enumName_of_parent {e : Enum} {outer : Message}
    (h : e.parent.bind t.message? = some outer) :
    c.enumName t e = c.messageName t outer ++ "_" ++ Naming.toPascalCase e.name := by
  rw [enumName, h]

/-- A name is added to a chain after an underscore. -/
theorem chainName_concat (package : String) {chain : List String} (hchain : chain ≠ [])
    (name : String) :
    c.chainName package (chain ++ [name])
      = c.chainName package chain ++ "_" ++ Naming.toPascalCase name := by
  have hmap : chain.map Naming.toPascalCase ≠ [] := fun h => hchain (List.map_eq_nil_iff.1 h)
  rw [chainName, chainName, List.map_append, List.map_singleton,
    String.intercalate_append_of_ne_nil hmap (List.cons_ne_nil _ _), String.intercalate_singleton,
    String.append_assoc, String.append_assoc, String.append_assoc]

section Chains

variable {α : Type} [Named α]

theorem chainName_of_top {d : Declaration α} (h : d.parent = none) :
    c.chainName d.package d.chain
      = c.qualifier d.package ++ Naming.toPascalCase (nameOf d.item) := by
  rw [Declaration.chain, Position.enclosing_of_parent h, List.nil_append, chainName_singleton]

theorem chainName_of_nested {d : Declaration MessageDescriptor} {number : Int} {items : List α}
    {e : Declaration α} (h : e ∈ d.inside.declare number items) :
    c.chainName e.package e.chain
      = c.chainName d.package d.chain ++ "_" ++ Naming.toPascalCase (nameOf e.item) := by
  obtain ⟨hpackage, henclosing⟩ := Declaration.nested_of_mem_declare h
  rw [Declaration.chain, henclosing, hpackage, c.chainName_concat _ d.chain_ne_nil]

end Chains

/-- The Go name of a declared message is that of its chain. -/
theorem messageName_eq_chainName (ht : t.Acyclic) (hshows : t.Shows files) :
    ∀ d ∈ files.flatMap FileDescriptor.declaredMessages, ∃ m,
      t.message? d.id = some m ∧ c.messageName t m = c.chainName d.package d.chain := by
  refine FileDescriptor.declared_induction ?top ?child
  case top =>
    intro d hd htop
    obtain ⟨m, hm, hrep⟩ := hshows.message d hd
    have hparent : m.parent.bind t.message? = none := by rw [hrep.parent, htop, Option.bind_none]
    refine ⟨m, hm, ?_⟩
    rw [c.messageName_of_top hparent, hrep.package, hrep.name, c.chainName_of_top htop]
  case child =>
    intro d hd ih e he
    obtain ⟨outer, houter, hname⟩ := ih
    obtain ⟨m, hm, hrep⟩ := hshows.message e (FileDescriptor.children_declared hd he)
    have hparent : m.parent.bind t.message? = some outer := by
      rw [hrep.parent, Declaration.parent_of_mem_declare he, Declaration.parent_inside,
        Option.bind_some, houter]
    refine ⟨m, hm, ?_⟩
    rw [c.messageName_of_parent ht hparent, hname, hrep.name, c.chainName_of_nested he]

/-- The Go name of a declared enum is that of its chain. -/
theorem enumName_eq_chainName (ht : t.Acyclic) (hshows : t.Shows files)
    {d : Declaration EnumDescriptor} (hd : d ∈ files.flatMap FileDescriptor.declaredEnums) :
    ∃ e, t.enum? d.id = some e ∧ c.enumName t e = c.chainName d.package d.chain := by
  obtain ⟨e, he, hrep⟩ := hshows.enum d hd
  refine ⟨e, he, ?_⟩
  rcases FileDescriptor.enum_parent_cases hd with htop | ⟨m, hm, hmem⟩
  · have hparent : e.parent.bind t.message? = none := by rw [hrep.parent, htop, Option.bind_none]
    rw [c.enumName_of_top hparent, hrep.package, hrep.name, c.chainName_of_top htop]
  · obtain ⟨outer, houter, hname⟩ := c.messageName_eq_chainName ht hshows m hm
    have hparent : e.parent.bind t.message? = some outer := by
      rw [hrep.parent, Declaration.parent_of_mem_declare hmem, Declaration.parent_inside,
        Option.bind_some, houter]
    rw [c.enumName_of_parent hparent, hname, hrep.name, c.chainName_of_nested hmem]

/-- **The Go name of a declared type** is made of the names along the nesting. -/
theorem typeName?_eq (ht : t.Acyclic) (hshows : t.Shows files) {d : TypeDeclaration}
    (hd : d ∈ declaredTypes files) : c.typeName? t d = some (c.chainName d.package d.chain) := by
  cases d with
  | message d =>
      obtain ⟨m, hm, hname⟩ :=
        c.messageName_eq_chainName ht hshows d (message_mem_declaredTypes.1 hd)
      rw [typeName?, hm, Option.map_some, hname]
      rfl
  | enum d =>
      obtain ⟨e, he, hname⟩ := c.enumName_eq_chainName ht hshows (enum_mem_declaredTypes.1 hd)
      rw [typeName?, he, Option.map_some, hname]
      rfl

/-- Two chains of one package that have the same name are the same in Pascal case. -/
theorem map_toPascalCase_eq_of_chainName_eq {package : String} {chain chain' : List String}
    (hchain : chain ≠ []) (hchain' : chain' ≠ [])
    (h : c.chainName package chain = c.chainName package chain') :
    chain.map Naming.toPascalCase = chain'.map Naming.toPascalCase := by
  have hfree : ∀ ns : List String, ∀ n ∈ ns.map Naming.toPascalCase, '_' ∉ n.toList :=
    fun ns => List.forall_mem_map.2 fun n _ => Naming.underscore_notMem_toPascalCase n
  have hjoined := (String.append_right_inj _).1 h
  exact Naming.intercalate_underscore_inj (fun hnil => hchain (List.map_eq_nil_iff.1 hnil))
    (fun hnil => hchain' (List.map_eq_nil_iff.1 hnil)) (hfree chain) (hfree chain') hjoined

/-- **Two types of a package have different Go names.**  When no two messages or enums of the files
share an identifier and each has a name in Pascal case, the codec names each of them by its chain,
and no two of a package alike. -/
theorem typeNames_distinct (config : Option ServiceConfig) {compiled : CompiledFiles}
    (hids : ((declaredTypes compiled.files).map TypeDeclaration.id).Nodup)
    (hnames : ∀ d ∈ declaredTypes compiled.files, Naming.toPascalCase d.name = d.name) :
    (∀ d ∈ declaredTypes compiled.files,
      c.typeName? (Api.ofCompiled config compiled).symbols d
        = some (c.qualifier d.package ++ "_".intercalate d.chain)) ∧
    ∀ d ∈ declaredTypes compiled.files, ∀ e ∈ declaredTypes compiled.files,
      d ≠ e → d.package = e.package →
        c.typeName? (Api.ofCompiled config compiled).symbols d
          ≠ c.typeName? (Api.ofCompiled config compiled).symbols e := by
  obtain ⟨hm, he⟩ := nodup_ids_of_declaredTypes hids
  have hname : ∀ d ∈ declaredTypes compiled.files,
      c.typeName? (Api.ofCompiled config compiled).symbols d
        = some (c.chainName d.package d.chain) :=
    fun d => c.typeName?_eq (Api.linked_ofCompiled config compiled).acyclic
      (Api.shows_ofCompiled hm he)
  have hpascal : ∀ d ∈ declaredTypes compiled.files, d.chain.map Naming.toPascalCase = d.chain := by
    have hfixed : ∀ d ∈ declaredTypes compiled.files, ∀ n ∈ d.chain, Naming.toPascalCase n = n :=
      forall_mem_chain hnames
    intro d hd
    rw [List.map_congr_left (hfixed d hd), List.map_id']
  constructor
  · intro d hd
    rw [hname d hd, chainName, hpascal d hd]
  · intro d hd e he hne hpackage heq
    rw [hname d hd, hname e he, Option.some_inj, hpackage] at heq
    have hchain := c.map_toPascalCase_eq_of_chainName_eq d.chain_ne_nil e.chain_ne_nil heq
    rw [hpascal d hd, hpascal e he] at hchain
    have hid : d.id = e.id := by rw [d.id_eq_foldl, e.id_eq_foldl, hchain, hpackage]
    exact hne (List.inj_on_of_nodup_map hids hd he hid)

end GoCodec

/-- The types of the library and its loans have names of their own. -/
theorem libraryLoans_distinct :
    ((declaredTypes libraryLoans.files).map TypeDeclaration.id).Nodup ∧
      (∀ d ∈ declaredTypes libraryLoans.files, Naming.toPascalCase d.name = d.name) ∧
      ∀ d ∈ declaredTypes libraryLoans.files, ∀ e ∈ declaredTypes libraryLoans.files,
        d ≠ e → d.package = e.package →
          ({ year := "2024" } : GoCodec).typeName? (Api.ofCompiled none libraryLoans).symbols d ≠
            ({ year := "2024" } : GoCodec).typeName? (Api.ofCompiled none libraryLoans).symbols
              e := by
  have hids : ((declaredTypes libraryLoans.files).map TypeDeclaration.id).Nodup := by decide
  have hnames : ∀ d ∈ declaredTypes libraryLoans.files, Naming.toPascalCase d.name = d.name := by
    decide +kernel
  exact ⟨hids, hnames, (GoCodec.typeNames_distinct { year := "2024" } none hids hnames).2⟩

end ClientGen
