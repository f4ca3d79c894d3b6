import ClientGen.Proofs.Declarations
import ClientGen.Proofs.SymbolTable
import ClientGen.Schema.Registration

/-!
# Registration enters every declaration once

The table of some files is filled by a recursion that enters what is nested in a message before the
message.  Here that recursion is read as a fold over declarations (`enter_eq`, `registerFile_eq`),
and one relation says what such a fold does:

* `Registers s t ms es` — `t` is `s` with the messages `ms` and the enums `es` entered.  It holds of
  every message (`registers_enter`), every file and every list of files (`registers_ofFiles`), as it
  composes (`Registers.append`).
* `isSome_message?_enter`, `isSome_enum?_enter` — the identifiers that a registration adds, whether
  or not they are different.
* `Entered` — how a message stands in the table: it was made when everything nested in it was there
  already, and nothing that was there then has changed since.
-/

namespace ClientGen

/-! ## Elements and their declarations -/

/-- The message says of itself and of what it is linked to what the declaration says. -/
structure Message.Represents (m : Message) (d : Declaration MessageDescriptor) : Prop where
  id : m.id = d.id
  name : m.name = nameOf d.item
  package : m.package = d.package
  parent : m.parent = d.parent
  messages : m.messages = d.children.map (·.id)
  enums : m.enums = d.enums.map (·.id)
  isMap : m.isMap = d.item.isMapEntry

/-- The enum says of itself and of what it is linked to what the declaration says. -/
structure Enum.Represents (e : Enum) (d : Declaration EnumDescriptor) : Prop where
  id : e.id = d.id
  name : e.name = nameOf d.item
  package : e.package = d.package
  parent : e.parent = d.parent

theorem Message.ofDescriptor_represents (t : SymbolTable) (d : Declaration MessageDescriptor) :
    (Message.ofDescriptor t d.item d.id d.package d.parent).Represents d where
  id := rfl
  name := rfl
  package := rfl
  parent := rfl
  messages := d.map_id_children.symm
  enums := d.map_id_enums.symm
  isMap := rfl

theorem Enum.ofDescriptor_represents (d : Declaration EnumDescriptor) :
    (Enum.ofDescriptor d.item d.id d.package d.parent).Represents d :=
  ⟨rfl, rfl, rfl, rfl⟩

namespace SymbolTable

/-! ## Registration as a fold over declarations -/

/-- Enters a declared enum. -/
def enterEnum (t : SymbolTable) (d : Declaration EnumDescriptor) : SymbolTable :=
  t.registerEnum d.item d.id d.package d.parent

/-- Enters a declared message with everything nested in it. -/
def enter (t : SymbolTable) (d : Declaration MessageDescriptor) : SymbolTable :=
  t.registerMessage d.item d.id d.package d.parent

/-- The symbol table of some files. -/
def ofFiles (files : List FileDescriptor) : SymbolTable :=
  files.foldl registerFile {}

theorem foldl_declare {α β : Type} {p : Position} {number : Int} {f : β → Declaration α → β}
    {g : β → α → β} (h : ∀ b i a, f b ⟨p.step number i, a⟩ = g b a) (items : List α) (b : β) :
    (p.declare number items).foldl f b = items.foldl g b := by
  conv_rhs => rw [← List.zipIdx_map_fst 0 items, List.foldl_map]
  rw [Position.declare, List.foldl_map]
  simp only [h]

theorem registerEnums_eq (t : SymbolTable) (p : Position) (number : Int)
    (ds : List EnumDescriptor) :
    t.registerEnums p.scope p.package p.parent ds = (p.declare number ds).foldl enterEnum t := by
  rw [registerEnums, foldl_declare]
  intro t i d
  rfl

theorem registerMessages_eq (t : SymbolTable) (p : Position) (number : Int)
    (ds : List MessageDescriptor) :
    t.registerMessages ds p.scope p.package p.parent = (p.declare number ds).foldl enter t := by
  rw [foldl_declare (g := fun t d =>
    t.registerMessage d (Identifier.child p.scope (nameOf d)) p.package p.parent) fun _ _ _ => rfl]
  induction ds generalizing t with
  | nil => rfl
  | cons d ds ih => rw [registerMessages, ih, List.foldl_cons]; rfl

/-- A message is entered after its children and its enums, and sees the table with all of them. -/
theorem enter_eq (t : SymbolTable) (d : Declaration MessageDescriptor) :
    t.enter d
      = (d.enums.foldl enterEnum (d.children.foldl enter t)).addMessage
          (Message.ofDescriptor (d.enums.foldl enterEnum (d.children.foldl enter t)) d.item d.id
            d.package d.parent) := by
  have hchildren := registerMessages_eq t d.inside 3 d.item.nestedTypes
  have henums := registerEnums_eq (d.children.foldl enter t) d.inside 4 d.item.enumTypes
  simp only [Declaration.scope_inside, Declaration.package_inside, Declaration.parent_inside]
    at hchildren henums
  rw [Declaration.enums, ← henums, Declaration.children, ← hchildren]
  obtain ⟨p, ⟨name, fields, nestedTypes, enumTypes, options, oneofDecls⟩⟩ := d
  rw [enter, registerMessage]

theorem registerFile_eq (t : SymbolTable) (file : FileDescriptor) :
    t.registerFile file = file.topEnums.foldl enterEnum (file.topMessages.foldl enter t) := by
  rw [FileDescriptor.topEnums, ← registerEnums_eq, FileDescriptor.topMessages,
    ← registerMessages_eq]
  rfl

/-! ## What registration does -/

/-- The message was made when its children were in a table whose messages are all still there. -/
def Entered (t : SymbolTable) (d : Declaration MessageDescriptor) : Prop :=
  ∃ u : SymbolTable, u.Below t ∧ (∀ c ∈ d.children, (u.message? c.id).isSome) ∧
    t.message? d.id = some (Message.ofDescriptor u d.item d.id d.package d.parent)

theorem Entered.mono {t u : SymbolTable} {d : Declaration MessageDescriptor} (h : t.Entered d)
    (htu : t.Below u) : u.Entered d := by
  obtain ⟨v, hv, hchildren, hd⟩ := h
  exact ⟨v, hv.trans htu, hchildren, htu _ _ hd⟩

theorem Entered.represented {t : SymbolTable} {d : Declaration MessageDescriptor}
    (h : t.Entered d) : ∃ m, t.message? d.id = some m ∧ m.Represents d := by
  obtain ⟨u, -, -, hd⟩ := h
  exact ⟨_, hd, Message.ofDescriptor_represents u d⟩

/-- The messages have different identifiers, and the table has none of them. -/
structure Fresh (t : SymbolTable) (ms : List (Declaration MessageDescriptor)) : Prop where
  nodup : (ms.map Declaration.id).Nodup
  absent : ∀ d ∈ ms, t.message? d.id = none

/-- `t` is `s` with the messages `ms` and the enums `es` entered.  What is entered may be told when
no two identifiers are the same; the rest is as it was in any case. -/
structure Registers (s t : SymbolTable) (ms : List (Declaration MessageDescriptor))
    (es : List (Declaration EnumDescriptor)) : Prop where
  message : s.Fresh ms → ∀ d ∈ ms, t.Entered d
  messageFrame : ∀ id, id ∉ ms.map Declaration.id → t.message? id = s.message? id
  enum : (es.map Declaration.id).Nodup → ∀ d ∈ es,
    t.enum? d.id = some (Enum.ofDescriptor d.item d.id d.package d.parent)
  enumFrame : ∀ id, id ∉ es.map Declaration.id → t.enum? id = s.enum? id
  services : t.services = s.services

variable {s t u : SymbolTable} {ms ms' : List (Declaration MessageDescriptor)}
  {es es' : List (Declaration EnumDescriptor)}

theorem Fresh.left (h : s.Fresh (ms ++ ms')) : s.Fresh ms where
  nodup := by
    have hnd := h.nodup
    rw [List.map_append] at hnd
    exact hnd.of_append_left
  absent d hd := h.absent d (List.mem_append_left _ hd)

theorem Registers.nil (s : SymbolTable) : Registers s s [] [] where
  message _ _ h := absurd h List.not_mem_nil
  messageFrame _ _ := rfl
  enum _ _ h := absurd h List.not_mem_nil
  enumFrame _ _ := rfl
  services := rfl

/-- Entering new messages leaves those that were there. -/
theorem Registers.below (h : Registers s t ms es) (hf : s.Fresh ms) : s.Below t := by
  intro id m hm
  rw [h.messageFrame id, hm]
  intro hid
  obtain ⟨d, hd, rfl⟩ := List.mem_map.1 hid
  rw [hf.absent d hd] at hm
  cases hm

/-- Messages that are new and different from the ones just entered are new still. -/
theorem Registers.fresh (h : Registers s t ms es) (hf : s.Fresh (ms ++ ms')) : t.Fresh ms' := by
  have hnd := hf.nodup
  rw [List.map_append, List.nodup_append'] at hnd
  obtain ⟨-, hnd', hdisj⟩ := hnd
  refine ⟨hnd', fun d hd => ?_⟩
  rw [h.messageFrame d.id fun hid => hdisj hid (List.mem_map_of_mem hd)]
  exact hf.absent d (List.mem_append_right _ hd)

/-- One registration after the other. -/
theorem Registers.append (h₁ : Registers s t ms es) (h₂ : Registers t u ms' es') :
    Registers s u (ms ++ ms') (es ++ es') where
  message hf d hd := by
    have hf' : t.Fresh ms' := h₁.fresh hf
    rcases List.mem_append.1 hd with hd | hd
    · exact (h₁.message hf.left d hd).mono (h₂.below hf')
    · exact h₂.message hf' d hd
  messageFrame id hid := by
    rw [List.map_append, List.mem_append, not_or] at hid
    rw [h₂.messageFrame id hid.2, h₁.messageFrame id hid.1]
  enum hnd d hd := by
    rw [List.map_append, List.nodup_append'] at hnd
    obtain ⟨hnd, hnd', hdisj⟩ := hnd
    rcases List.mem_append.1 hd with hd | hd
    · rw [h₂.enumFrame d.id fun hid => hdisj (List.mem_map_of_mem hd) hid]
      exact h₁.enum hnd d hd
    · exact h₂.enum hnd' d hd
  enumFrame id hid := by
    rw [List.map_append, List.mem_append, not_or] at hid
    rw [h₂.enumFrame id hid.2, h₁.enumFrame id hid.1]
  services := h₂.services.trans h₁.services

/-- The order in which the entered elements are listed does not matter. -/
theorem Registers.perm (h : Registers s t ms es) (hms : ms.Perm ms') (hes : es.Perm es') :
    Registers s t ms' es' where
  message hf d hd :=
    h.message ⟨(hms.map _).nodup_iff.2 hf.nodup, fun d hd => hf.absent d (hms.mem_iff.1 hd)⟩ d
      (hms.mem_iff.2 hd)
  messageFrame id hid := h.messageFrame id fun hid' => hid ((hms.map _).mem_iff.1 hid')
  enum hnd d hd := h.enum ((hes.map _).nodup_iff.2 hnd) d (hes.mem_iff.2 hd)
  enumFrame id hid := h.enumFrame id fun hid' => hid ((hes.map _).mem_iff.1 hid')
  services := h.services

/-- A fold registers what its steps register. -/
theorem registers_foldl {α : Type} {f : SymbolTable → α → SymbolTable}
    {messages : α → List (Declaration MessageDescriptor)}
    {enums : α → List (Declaration EnumDescriptor)} (items : List α)
    (h : ∀ a ∈ items, ∀ s, Registers s (f s a) (messages a) (enums a)) (s : SymbolTable) :
    Registers s (items.foldl f s) (items.flatMap messages) (items.flatMap enums) := by
  induction items generalizing s with
  | nil => exact Registers.nil s
  | cons a items ih =>
      rw [List.foldl_cons, List.flatMap_cons, List.flatMap_cons]
      exact (h a (List.mem_cons_self ..) s).append
        (ih (fun b hb => h b (List.mem_cons_of_mem _ hb)) _)

theorem registers_enterEnum (s : SymbolTable) (d : Declaration EnumDescriptor) :
    Registers s (s.enterEnum d) [] [d] where
  message _ _ h := absurd h List.not_mem_nil
  messageFrame _ _ := rfl
  enum _ e he := by
    rw [List.mem_singleton.1 he, enterEnum, registerEnum, enum?_addEnum]
    exact if_pos rfl
  enumFrame id hid := by
    rw [enterEnum, registerEnum, enum?_addEnum]
    exact if_neg fun h => hid (by rw [h]; exact List.mem_singleton_self _)
  services := rfl

theorem registers_foldl_enterEnum (ds : List (Declaration EnumDescriptor)) (s : SymbolTable) :
    Registers s (ds.foldl enterEnum s) [] ds := by
  have h := registers_foldl ds (fun d _ s => registers_enterEnum s d) s
  have hnil : ds.flatMap (fun _ => ([] : List (Declaration MessageDescriptor))) = [] :=
    List.flatMap_eq_nil_iff.2 fun _ _ => rfl
  rwa [hnil, List.flatMap_singleton'] at h

/-- Entering a message after its children. -/
theorem Registers.addMessage {d : Declaration MessageDescriptor} (h : Registers s t ms es)
    (hchildren : ∀ c ∈ d.children, c ∈ ms) :
    Registers s (t.addMessage (Message.ofDescriptor t d.item d.id d.package d.parent)) (d :: ms)
      es := by
  have hself : ∀ id, (t.addMessage (Message.ofDescriptor t d.item d.id d.package d.parent)).message?
      id = if id = d.id then some (Message.ofDescriptor t d.item d.id d.package d.parent)
        else t.message? id := fun id => message?_addMessage ..
  refine ⟨fun hf => ?_, fun id hid => ?_, h.enum, h.enumFrame, h.services⟩
  · have hperm : (d :: ms).Perm (ms ++ [d]) := (List.perm_append_singleton d ms).symm
    have hf' : s.Fresh (ms ++ [d]) :=
      ⟨(hperm.map _).nodup_iff.1 hf.nodup, fun e he => hf.absent e (hperm.mem_iff.2 he)⟩
    have hbelow : t.Below
        (t.addMessage (Message.ofDescriptor t d.item d.id d.package d.parent)) := by
      intro id m hm
      rw [hself, if_neg, hm]
      rintro rfl
      rw [(h.fresh hf').absent d (List.mem_singleton_self d)] at hm
      cases hm
    intro e he
    rcases List.mem_cons.1 he with rfl | he
    · refine ⟨t, hbelow, fun c hc => ?_, by rw [hself, if_pos rfl]⟩
      obtain ⟨m, hm, -⟩ := (h.message hf'.left c (hchildren c hc)).represented
      rw [hm, Option.isSome_some]
    · exact (h.message hf'.left e he).mono hbelow
  · rw [List.map_cons, List.mem_cons, not_or] at hid
    rw [hself, if_neg hid.1, h.messageFrame id hid.2]

/-- Entering a message registers all that is declared below it. -/
theorem registers_enter (d : Declaration MessageDescriptor) (s : SymbolTable) :
    Registers s (s.enter d) d.all (d.all.flatMap Declaration.enums) := by
  induction d using Declaration.induction generalizing s with
  | h d ih =>
      have hbelow := (registers_foldl d.children ih s).append
        (registers_foldl_enterEnum d.enums (d.children.foldl enter s))
      rw [enter_eq, Declaration.all_eq, List.flatMap_cons, List.flatMap_assoc]
      refine (hbelow.addMessage ?_).perm ?_ List.perm_append_comm
      · intro c hc
        rw [List.append_nil]
        exact List.mem_flatMap.2 ⟨c, hc, c.mem_all_self⟩
      · rw [List.append_nil]

theorem registers_registerFile (file : FileDescriptor) (s : SymbolTable) :
    Registers s (s.registerFile file) file.declaredMessages file.declaredEnums := by
  have h := (registers_foldl file.topMessages (fun d _ s => registers_enter d s) s).append
    (registers_foldl_enterEnum file.topEnums _)
  rw [registerFile_eq]
  refine h.perm ?_ ?_
  · rw [List.append_nil, FileDescriptor.declaredMessages]
  · rw [FileDescriptor.declaredEnums, FileDescriptor.declaredMessages, List.flatMap_assoc]
    exact List.perm_append_comm

theorem registers_ofFiles (files : List FileDescriptor) :
    Registers {} (ofFiles files) (files.flatMap FileDescriptor.declaredMessages)
      (files.flatMap FileDescriptor.declaredEnums) :=
  registers_foldl files (fun file _ s => registers_registerFile file s) {}

/-! ## The identifiers of a table -/

/-- What holds of a table when it did before or when a step adds the identifier holds after a fold
when it did before or when one of the steps adds the identifier. -/
theorem foldl_iff_mem {α : Type} (P : SymbolTable → Prop) {f : SymbolTable → α → SymbolTable}
    {ids : α → List String} {id : String} {items : List α}
    (h : ∀ a ∈ items, ∀ t, P (f t a) ↔ P t ∨ id ∈ ids a) (t : SymbolTable) :
    P (items.foldl f t) ↔ P t ∨ id ∈ items.flatMap ids := by
  induction items generalizing t with
  | nil => simp
  | cons a items ih =>
      have htail := ih (fun a' ha' => h a' (List.mem_cons_of_mem _ ha')) (f t a)
      rw [List.foldl_cons, htail, h a (List.mem_cons_self ..) t, List.flatMap_cons,
        List.mem_append, or_assoc]

section Identifiers

variable (t : SymbolTable) (id : String)

theorem message?_foldl_enterEnum (ds : List (Declaration EnumDescriptor)) :
    (ds.foldl enterEnum t).message? id = t.message? id :=
  (registers_foldl_enterEnum ds t).messageFrame id (by simp)

theorem isSome_enum?_foldl_enterEnum (ds : List (Declaration EnumDescriptor)) :
    ((ds.foldl enterEnum t).enum? id).isSome
      ↔ (t.enum? id).isSome ∨ id ∈ ds.map Declaration.id := by
  have hstep : ∀ d ∈ ds, ∀ u : SymbolTable,
      ((u.enterEnum d).enum? id).isSome ↔ (u.enum? id).isSome ∨ id ∈ [d.id] := by
    intro d _ u
    rw [enterEnum, registerEnum, enum?_addEnum]
    by_cases h : id = d.id <;> simp [Enum.ofDescriptor, h]
  rw [foldl_iff_mem (fun u => (u.enum? id).isSome) hstep, List.map_eq_flatMap]

/-- Entering a message adds the identifiers of all messages declared below it. -/
theorem isSome_message?_enter (d : Declaration MessageDescriptor) :
    ((t.enter d).message? id).isSome
      ↔ (t.message? id).isSome ∨ id ∈ d.all.map Declaration.id := by
  induction d using Declaration.induction generalizing t with
  | h d ih =>
      have hchildren := foldl_iff_mem (fun u => (u.message? id).isSome) (fun c hc u => ih c hc u) t
      rw [enter_eq, message?_addMessage, Declaration.all_eq, List.map_cons, List.mem_cons,
        List.map_flatMap]
      by_cases hid : id = d.id
      · simp [Message.ofDescriptor, hid]
      · simpa [Message.ofDescriptor, hid, message?_foldl_enterEnum] using hchildren

theorem isSome_enum?_enter (d : Declaration MessageDescriptor) :
    ((t.enter d).enum? id).isSome
      ↔ (t.enum? id).isSome ∨ id ∈ (d.all.flatMap Declaration.enums).map Declaration.id := by
  induction d using Declaration.induction generalizing t with
  | h d ih =>
      have hchildren := foldl_iff_mem (fun u => (u.enum? id).isSome) (fun c hc u => ih c hc u) t
      have hadd : ∀ (u : SymbolTable) (m : Message), (u.addMessage m).enum? id = u.enum? id :=
        fun _ _ => rfl
      rw [enter_eq, hadd, isSome_enum?_foldl_enterEnum, hchildren, Declaration.all_eq,
        List.flatMap_cons, List.map_append, List.mem_append, List.flatMap_assoc, List.map_flatMap]
      tauto

/-- The messages of a table of files are those declared, however often each is declared. -/
theorem isSome_message?_foldl_registerFile (files : List FileDescriptor) :
    ((files.foldl registerFile t).message? id).isSome ↔ (t.message? id).isSome
      ∨ id ∈ (files.flatMap FileDescriptor.declaredMessages).map Declaration.id := by
  have hfile : ∀ file ∈ files, ∀ u : SymbolTable, ((u.registerFile file).message? id).isSome
      ↔ (u.message? id).isSome ∨ id ∈ file.declaredMessages.map Declaration.id := by
    intro file _ u
    rw [registerFile_eq, message?_foldl_enterEnum, FileDescriptor.declaredMessages,
      List.map_flatMap]
    exact foldl_iff_mem (fun v => (v.message? id).isSome)
      (fun d _ v => isSome_message?_enter v id d) u
  rw [foldl_iff_mem (fun u => (u.message? id).isSome) hfile, List.map_flatMap]

theorem isSome_enum?_foldl_registerFile (files : List FileDescriptor) :
    ((files.foldl registerFile t).enum? id).isSome ↔ (t.enum? id).isSome
      ∨ id ∈ (files.flatMap FileDescriptor.declaredEnums).map Declaration.id := by
  have hfile : ∀ file ∈ files, ∀ u : SymbolTable, ((u.registerFile file).enum? id).isSome
      ↔ (u.enum? id).isSome ∨ id ∈ file.declaredEnums.map Declaration.id := by
    intro file _ u
    rw [registerFile_eq, isSome_enum?_foldl_enterEnum,
      foldl_iff_mem (fun v => (v.enum? id).isSome) (fun d _ v => isSome_enum?_enter v id d),
      FileDescriptor.declaredEnums, FileDescriptor.declaredMessages, List.map_append,
      List.mem_append, List.flatMap_assoc, List.map_flatMap]
    tauto
  rw [foldl_iff_mem (fun u => (u.enum? id).isSome) hfile, List.map_flatMap]

end Identifiers

/-! ## The table of some files -/

/-- Every declared message is in the table. -/
theorem entered_ofFiles {files : List FileDescriptor}
    (hm : ((files.flatMap FileDescriptor.declaredMessages).map Declaration.id).Nodup) :
    ∀ d ∈ files.flatMap FileDescriptor.declaredMessages, (ofFiles files).Entered d :=
  (registers_ofFiles files).message ⟨hm, fun _ _ => rfl⟩

/-- The table has no other messages. -/
theorem isSome_message?_ofFiles (files : List FileDescriptor) (id : String) :
    ((ofFiles files).message? id).isSome
      ↔ id ∈ (files.flatMap FileDescriptor.declaredMessages).map Declaration.id := by
  have hempty : ¬(({} : SymbolTable).message? id).isSome := Bool.false_ne_true
  rw [ofFiles, isSome_message?_foldl_registerFile, or_iff_right hempty]

theorem perm_keys_messages_ofFiles {files : List FileDescriptor}
    (hm : ((files.flatMap FileDescriptor.declaredMessages).map Declaration.id).Nodup) :
    (ofFiles files).messages.keys.Perm
      ((files.flatMap FileDescriptor.declaredMessages).map Declaration.id) :=
  Table.perm_keys hm (isSome_message?_ofFiles files)

/-- Every declared enum is in the table. -/
theorem enum?_ofFiles {files : List FileDescriptor}
    (he : ((files.flatMap FileDescriptor.declaredEnums).map Declaration.id).Nodup) :
    ∀ d ∈ files.flatMap FileDescriptor.declaredEnums,
      ∃ e, (ofFiles files).enum? d.id = some e ∧ e.Represents d :=
  fun d hd => ⟨_, (registers_ofFiles files).enum he d hd, Enum.ofDescriptor_represents d⟩

/-- The table has no other enums. -/
theorem isSome_enum?_ofFiles (files : List FileDescriptor) (id : String) :
    ((ofFiles files).enum? id).isSome
      ↔ id ∈ (files.flatMap FileDescriptor.declaredEnums).map Declaration.id := by
  have hempty : ¬(({} : SymbolTable).enum? id).isSome := Bool.false_ne_true
  rw [ofFiles, isSome_enum?_foldl_registerFile, or_iff_right hempty]

theorem perm_keys_enums_ofFiles {files : List FileDescriptor}
    (he : ((files.flatMap FileDescriptor.declaredEnums).map Declaration.id).Nodup) :
    (ofFiles files).enums.keys.Perm
      ((files.flatMap FileDescriptor.declaredEnums).map Declaration.id) :=
  Table.perm_keys he (isSome_enum?_ofFiles files)

/-- The table has an entry for each declared message and enum, linked as they are nested, and no
other entry. -/
structure Mirrors (t : SymbolTable) (files : List FileDescriptor) : Prop where
  messageKeys : t.messages.keys.Perm
    ((files.flatMap FileDescriptor.declaredMessages).map Declaration.id)
  enumKeys : t.enums.keys.Perm ((files.flatMap FileDescriptor.declaredEnums).map Declaration.id)
  message : ∀ d ∈ files.flatMap FileDescriptor.declaredMessages,
    ∃ m, t.message? d.id = some m ∧ m.Represents d
  enum : ∀ d ∈ files.flatMap FileDescriptor.declaredEnums,
    ∃ e, t.enum? d.id = some e ∧ e.Represents d
  topMessage : ∀ file ∈ files, ∀ d ∈ file.topMessages,
    ∃ m, t.message? d.id = some m ∧ m.parent = none
  topEnum : ∀ file ∈ files, ∀ d ∈ file.topEnums, ∃ e, t.enum? d.id = some e ∧ e.parent = none
  nestedMessage : ∀ d ∈ files.flatMap FileDescriptor.declaredMessages, ∀ c ∈ d.children,
    ∃ m, t.message? c.id = some m ∧ m.parent = some d.id ∧ Identifier.parentName m.id = d.id
  nestedEnum : ∀ d ∈ files.flatMap FileDescriptor.declaredMessages, ∀ c ∈ d.enums,
    ∃ e, t.enum? c.id = some e ∧ e.parent = some d.id ∧ Identifier.parentName e.id = d.id
  count : t.messages.size + t.enums.size
    = (files.flatMap FileDescriptor.declaredMessages).length
      + (files.flatMap FileDescriptor.declaredEnums).length

/-- **Registration enters every declaration once.**  When no two messages and no two enums share an
identifier and no name has a dot, the table of the files has exactly one entry for each message and
each enum, under the identifier that its package and the enclosing names spell, with the links that
the nesting gives. -/
theorem ofFiles_mirrors {files : List FileDescriptor}
    (hm : ((files.flatMap FileDescriptor.declaredMessages).map Declaration.id).Nodup)
    (he : ((files.flatMap FileDescriptor.declaredEnums).map Declaration.id).Nodup)
    (hnames : SimpleNames files) : (ofFiles files).Mirrors files where
  messageKeys := perm_keys_messages_ofFiles hm
  enumKeys := perm_keys_enums_ofFiles he
  message d hd := (entered_ofFiles hm d hd).represented
  enum := enum?_ofFiles he
  topMessage file hfile d hd := by
    have hmem := List.mem_flatMap.2 ⟨file, hfile, file.mem_declaredMessages_of_top hd⟩
    obtain ⟨m, hdm, hrep⟩ := (entered_ofFiles hm d hmem).represented
    exact ⟨m, hdm, hrep.parent.trans (Declaration.parent_of_mem_declare hd)⟩
  topEnum file hfile d hd := by
    have hmem := List.mem_flatMap.2 ⟨file, hfile, file.mem_declaredEnums_of_top hd⟩
    obtain ⟨e, hde, hrep⟩ := enum?_ofFiles he d hmem
    exact ⟨e, hde, hrep.parent.trans (Declaration.parent_of_mem_declare hd)⟩
  nestedMessage d hd c hc := by
    have hmem := FileDescriptor.children_declared hd hc
    obtain ⟨m, hcm, hrep⟩ := (entered_ofFiles hm c hmem).represented
    have hparent := (Declaration.parent_of_mem_declare hc).trans d.parent_inside
    refine ⟨m, hcm, hrep.parent.trans hparent, ?_⟩
    rw [hrep.id, Declaration.id_of_mem_declare hc, Declaration.scope_inside]
    exact Identifier.parentName_child (Identifier.child_ne_empty _ _) (hnames.messages c hmem).2
  nestedEnum d hd c hc := by
    have hmem := FileDescriptor.enums_declared hd hc
    obtain ⟨e, hce, hrep⟩ := enum?_ofFiles he c hmem
    have hparent := (Declaration.parent_of_mem_declare hc).trans d.parent_inside
    refine ⟨e, hce, hrep.parent.trans hparent, ?_⟩
    rw [hrep.id, Declaration.id_of_mem_declare hc, Declaration.scope_inside]
    exact Identifier.parentName_child (Identifier.child_ne_empty _ _) (hnames.enums c hmem).2
  count := by
    rw [Table.size_eq_length (perm_keys_messages_ofFiles hm),
      Table.size_eq_length (perm_keys_enums_ofFiles he), List.length_map, List.length_map]

end SymbolTable

/-! ### An example -/

/-- A library: books with pages, a map of shelf marks and an enum, and a file that is imported. -/
def libraryFiles : List FileDescriptor :=
  [{ package := some "library.v1"
     messageTypes :=
       [{ name := some "Book"
          fields :=
            [{ name := some "title", label := some 1, type := some 9 },
              { name := some "marks", label := some 3, type := some 11,
                typeName := some ".library.v1.Book.MarksEntry" },
              { name := some "pages", label := some 3, type := some 11,
                typeName := some ".library.v1.Book.Page" }]
          nestedTypes :=
            [{ name := some "Page"
               fields := [{ name := some "size", label := some 1, type := some 14,
                            typeName := some ".Size" }]
               enumTypes := [{ name := some "Side", values := [{ name := some "LEFT" }] }] },
              { name := some "MarksEntry"
                fields :=
                  [{ name := some "key", label := some 1, type := some 9 },
                    { name := some "value", label := some 1, type := some 5 }]
                options := some { mapEntry := some true } }] }]
     enumTypes := [{ name := some "Genre", values := [{ name := some "NOVEL" }] }] },
    { enumTypes := [{ name := some "Size" }], messageTypes := [{ name := some "Shelf" }] }]

theorem libraryFiles_mirrored :
    ((libraryFiles.flatMap FileDescriptor.declaredMessages).map Declaration.id).Nodup ∧
      ((libraryFiles.flatMap FileDescriptor.declaredEnums).map Declaration.id).Nodup ∧
      SimpleNames libraryFiles ∧ (SymbolTable.ofFiles libraryFiles).Mirrors libraryFiles :=
  have hm : ((libraryFiles.flatMap FileDescriptor.declaredMessages).map Declaration.id).Nodup := by
    decide
  have he : ((libraryFiles.flatMap FileDescriptor.declaredEnums).map Declaration.id).Nodup := by
    decide
  have hnames : SimpleNames libraryFiles := ⟨by decide, by decide⟩
  ⟨hm, he, hnames, SymbolTable.ofFiles_mirrors hm he hnames⟩

end ClientGen
