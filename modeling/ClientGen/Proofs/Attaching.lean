import ClientGen.Proofs.Documentation
import Mathlib.Data.List.Basic

/-!
# Comments of a file as writes to a table

Attaching the comments of a file writes texts to slots of the symbol table, whatever the table and
the file have to do with each other.  Where several parts of an element have one name the slot is
the first of them.

* `DocPart` — documented parts of an element; a message has two sorts, an enum and a service one.
* `SymbolTable.document_document_self`, `SymbolTable.document_comm` — the last text for a target
  stays, and texts for different targets do not get in each other's way.
* `SymbolTable.documentAll_documentAll` — so texts that are written a second time change nothing.
* `SymbolTable.KeptBut` — what is no slot of a named target is as it was.
* `SymbolTable.documentFile_frame` — what attaching the comments of a file changes, and what not.
-/

namespace ClientGen

/-! ## Writing to the first of a target -/

theorem modifyFirst_modifyFirst_self {α : Type} {p : α → Bool} {f g : α → α}
    (hf : ∀ a, p (f a) = p a) (l : List α) :
    modifyFirst p g (modifyFirst p f l) = modifyFirst p (g ∘ f) l := by
  induction l with
  | nil => rfl
  | cons a l ih =>
      cases ha : p a with
      | true => simp [modifyFirst, ha, hf]
      | false => simp [modifyFirst, ha, ih]

/-- Changes to the first items of two disjoint sorts do not get in each other's way. -/
theorem modifyFirst_comm {α : Type} {p q : α → Bool} {f g : α → α}
    (hpq : ∀ a, p a = true → q a = false) (hf : ∀ a, q (f a) = q a) (hg : ∀ a, p (g a) = p a)
    (l : List α) :
    modifyFirst p f (modifyFirst q g l) = modifyFirst q g (modifyFirst p f l) := by
  induction l with
  | nil => rfl
  | cons a l ih =>
      cases hp : p a with
      | true =>
          have hq := hpq a hp
          simp [modifyFirst, hp, hq, hf]
      | false =>
          cases hq : q a with
          | true => simp [modifyFirst, hp, hq, hg]
          | false => simp [modifyFirst, hp, hq, ih]

/-- Documented parts of an element: the target of each, and how a text is written to it. -/
structure DocPart (α : Type) where
  slot : α → DocTarget
  write : String → α → α
  slot_write : ∀ text a, slot (write text a) = slot a
  write_write : ∀ x y a, write y (write x a) = write y a

section Parts

variable {α : Type} (part : DocPart α)

/-- Writes a text to the first item that a target is for. -/
def writeFirst (target : DocTarget) (text : String) (items : List α) : List α :=
  modifyFirst (fun a => decide (part.slot a = target)) (part.write text) items

/-- One list is another one but for the texts of items that are the first for a named target. -/
structure PartsKeptBut (named : DocTarget → Prop) (items items' : List α) : Prop where
  slots : items'.map part.slot = items.map part.slot
  kept : ∀ (i : Nat) (a : α), items[i]? = some a →
    ¬(named (part.slot a) ∧ (items.map part.slot).idxOf (part.slot a) = i) → items'[i]? = some a

variable {part} {named named' : DocTarget → Prop} {target : DocTarget}

theorem writeFirst_of_ne {items : List α} (h : ∀ a, part.slot a ≠ target) (text : String) :
    writeFirst part target text items = items :=
  modifyFirst_eq_self (List.find?_eq_none.2 fun a _ => by simpa using h a)

theorem writeFirst_self (target : DocTarget) (x y : String) (items : List α) :
    writeFirst part target y (writeFirst part target x items)
      = writeFirst part target y items := by
  have hlast : part.write y ∘ part.write x = part.write y := funext (part.write_write x y)
  rw [writeFirst, writeFirst, modifyFirst_modifyFirst_self fun a => by rw [part.slot_write], hlast]
  rfl

theorem writeFirst_comm {a b : DocTarget} (h : a ≠ b) (x y : String) (items : List α) :
    writeFirst part a x (writeFirst part b y items)
      = writeFirst part b y (writeFirst part a x items) := by
  refine modifyFirst_comm (fun item hitem => ?_) (fun item => ?_) (fun item => ?_) items
  · rw [of_decide_eq_true hitem]
    exact decide_eq_false h
  · rw [part.slot_write]
  · rw [part.slot_write]

theorem PartsKeptBut.refl (items : List α) : PartsKeptBut part named items items :=
  ⟨rfl, fun _ _ h _ => h⟩

theorem PartsKeptBut.trans {items items' items'' : List α}
    (h : PartsKeptBut part named items items') (h' : PartsKeptBut part named items' items'') :
    PartsKeptBut part named items items'' where
  slots := h'.slots.trans h.slots
  kept i a ha hnot := h'.kept i a (h.kept i a ha hnot) (by rwa [h.slots])

theorem PartsKeptBut.mono {items items' : List α} (h : PartsKeptBut part named items items')
    (hnamed : ∀ target, named target → named' target) : PartsKeptBut part named' items items' where
  slots := h.slots
  kept i a ha hnot := h.kept i a ha (mt (And.imp_left (hnamed _)) hnot)

/-- A text for a target goes to the first item of the target. -/
theorem partsKeptBut_writeFirst (target : DocTarget) (text : String) (items : List α) :
    PartsKeptBut part (· = target) items (writeFirst part target text items) where
  slots := map_modifyFirst (part.slot_write text) items
  kept := by
    induction items with
    | nil => exact fun _ _ h _ => h
    | cons b items ih =>
        intro i a ha hnot
        rw [writeFirst, modifyFirst]
        by_cases hb : part.slot b = target
        · rw [if_pos (decide_eq_true hb)]
          cases i with
          | zero =>
              obtain rfl := Option.some.inj ha
              exact absurd ⟨hb, List.idxOf_cons_self⟩ hnot
          | succ i => exact ha
        · rw [if_neg (by simpa using hb)]
          cases i with
          | zero => exact ha
          | succ i =>
              -- The head is not for the target, so it does not move the first one that is.
              refine ih i a ha fun hfirst => hnot ⟨hfirst.1, ?_⟩
              rw [List.map_cons, List.idxOf_cons_ne _ (fun h => hb (h.trans hfirst.1)), hfirst.2]

end Parts

/-! ## One write -/

/-- The fields of a message, each found by its identifier. -/
def Field.part (message : String) : DocPart Field where
  slot f := .field message f.id
  write text f := { f with documentation := text }
  slot_write _ _ := rfl
  write_write _ _ _ := rfl

/-- The groups of a message, each found by its identifier. -/
def OneOf.part (message : String) : DocPart OneOf where
  slot o := .oneOf message o.id
  write text o := { o with documentation := text }
  slot_write _ _ := rfl
  write_write _ _ _ := rfl

/-- The values of an enum, each found by its name. -/
def EnumValue.part (enum : String) : DocPart EnumValue where
  slot v := .enumValue enum v.name
  write text v := { v with documentation := text }
  slot_write _ _ := rfl
  write_write _ _ _ := rfl

/-- The methods of a service, each found by its name. -/
def Method.part (service : String) : DocPart Method where
  slot m := .method service m.name
  write text m := { m with documentation := text }
  slot_write _ _ := rfl
  write_write _ _ _ := rfl

section Writes

variable (id : String) (target : DocTarget) (text : String)

theorem Message.document_eq (m : Message) :
    m.document id target text
      = { m with
          documentation := if .message id = target then text else m.documentation
          fields := writeFirst (Field.part id) target text m.fields
          oneOfs := writeFirst (OneOf.part id) target text m.oneOfs } := by
  cases target with
  | message id' =>
      by_cases h : id = id' <;>
        simp [Message.document, h, writeFirst_of_ne, Field.part, OneOf.part]
  | field id' field =>
      by_cases h : id = id'
      · have hgroups : ∀ o, (OneOf.part id).slot o ≠ .field id' field := by simp [OneOf.part]
        rw [writeFirst_of_ne hgroups]
        simp [Message.document, h, writeFirst, Field.part]
      · simp [Message.document, h, writeFirst_of_ne, Field.part, OneOf.part]
  | oneOf id' oneOf =>
      by_cases h : id = id'
      · have hfields : ∀ f, (Field.part id).slot f ≠ .oneOf id' oneOf := by simp [Field.part]
        rw [writeFirst_of_ne hfields]
        simp [Message.document, h, writeFirst, OneOf.part]
      · simp [Message.document, h, writeFirst_of_ne, Field.part, OneOf.part]
  | enum _ | enumValue _ _ | service _ | method _ _ =>
      simp [Message.document, writeFirst_of_ne, Field.part, OneOf.part]

theorem Enum.document_eq (e : Enum) :
    e.document id target text
      = { e with
          documentation := if .enum id = target then text else e.documentation
          values := writeFirst (EnumValue.part id) target text e.values } := by
  cases target with
  | enum id' =>
      by_cases h : id = id' <;> simp [Enum.document, h, writeFirst_of_ne, EnumValue.part]
  | enumValue id' value =>
      by_cases h : id = id'
      · simp [Enum.document, h, writeFirst, EnumValue.part]
      · simp [Enum.document, h, writeFirst_of_ne, EnumValue.part]
  | message _ | field _ _ | oneOf _ _ | service _ | method _ _ =>
      simp [Enum.document, writeFirst_of_ne, EnumValue.part]

theorem Service.document_eq (s : Service) :
    s.document id target text
      = { s with
          documentation := if .service id = target then text else s.documentation
          methods := writeFirst (Method.part id) target text s.methods } := by
  cases target with
  | service id' =>
      by_cases h : id = id' <;> simp [Service.document, h, writeFirst_of_ne, Method.part]
  | method id' method =>
      by_cases h : id = id'
      · simp [Service.document, h, writeFirst, Method.part]
      · simp [Service.document, h, writeFirst_of_ne, Method.part]
  | message _ | field _ _ | oneOf _ _ | enum _ | enumValue _ _ =>
      simp [Service.document, writeFirst_of_ne, Method.part]

end Writes

/-! ## Two writes -/

section TwoWrites

variable {a b : DocTarget} (id : String) (x y : String)

theorem Message.document_document_self (a : DocTarget) (m : Message) :
    (m.document id a x).document id a y = m.document id a y := by
  simp only [Message.document_eq, writeFirst_self]
  split <;> rfl

theorem Message.document_comm (h : a ≠ b) (m : Message) :
    (m.document id b y).document id a x = (m.document id a x).document id b y := by
  simp only [Message.document_eq, writeFirst_comm h]
  by_cases ha : DocTarget.message id = a
  · rw [if_pos ha, if_pos ha, if_neg (ha.symm ▸ h)]
  · rw [if_neg ha, if_neg ha]

theorem Enum.document_document_self (a : DocTarget) (e : Enum) :
    (e.document id a x).document id a y = e.document id a y := by
  simp only [Enum.document_eq, writeFirst_self]
  split <;> rfl

theorem Enum.document_comm (h : a ≠ b) (e : Enum) :
    (e.document id b y).document id a x = (e.document id a x).document id b y := by
  simp only [Enum.document_eq, writeFirst_comm h]
  by_cases ha : DocTarget.enum id = a
  · rw [if_pos ha, if_pos ha, if_neg (ha.symm ▸ h)]
  · rw [if_neg ha, if_neg ha]

theorem Service.document_document_self (a : DocTarget) (s : Service) :
    (s.document id a x).document id a y = s.document id a y := by
  simp only [Service.document_eq, writeFirst_self]
  split <;> rfl

theorem Service.document_comm (h : a ≠ b) (s : Service) :
    (s.document id b y).document id a x = (s.document id a x).document id b y := by
  simp only [Service.document_eq, writeFirst_comm h]
  by_cases ha : DocTarget.service id = a
  · rw [if_pos ha, if_pos ha, if_neg (ha.symm ▸ h)]
  · rw [if_neg ha, if_neg ha]

namespace SymbolTable

/-- The second of two texts for one target stays. -/
theorem document_document_self (t : SymbolTable) (a : DocTarget) :
    (t.document a x).document a y = t.document a y := by
  refine ext_get? (fun id => ?_) (fun id => ?_) (fun id => ?_)
  · rw [message?_document, message?_document, message?_document, Option.map_map]
    exact congrArg (Option.map · _) (funext (Message.document_document_self id x y a))
  · rw [enum?_document, enum?_document, enum?_document, Option.map_map]
    exact congrArg (Option.map · _) (funext (Enum.document_document_self id x y a))
  · rw [service?_document, service?_document, service?_document, Option.map_map]
    exact congrArg (Option.map · _) (funext (Service.document_document_self id x y a))

/-- Texts for different targets can change places. -/
theorem document_comm (t : SymbolTable) (h : a ≠ b) :
    (t.document b y).document a x = (t.document a x).document b y := by
  refine ext_get? (fun id => ?_) (fun id => ?_) (fun id => ?_)
  · rw [message?_document, message?_document, message?_document, message?_document,
      Option.map_map, Option.map_map]
    exact congrArg (Option.map · _) (funext (Message.document_comm id x y h))
  · rw [enum?_document, enum?_document, enum?_document, enum?_document, Option.map_map,
      Option.map_map]
    exact congrArg (Option.map · _) (funext (Enum.document_comm id x y h))
  · rw [service?_document, service?_document, service?_document, service?_document,
      Option.map_map, Option.map_map]
    exact congrArg (Option.map · _) (funext (Service.document_comm id x y h))

end SymbolTable

end TwoWrites

/-! ## Writes in a row -/

/-- Writes texts one after the other, each for its target. -/
def SymbolTable.documentAll (t : SymbolTable) (writes : List (DocTarget × String)) : SymbolTable :=
  writes.foldl (fun t w => t.document w.1 w.2) t

/-- What a location writes: nothing without a comment or for a path that leads nowhere. -/
def FileDescriptor.write? (file : FileDescriptor) (l : Location) : Option (DocTarget × String) :=
  if (textOf l.leadingComments).isEmpty then none
  else (file.resolve l.path).map (·, trimComment (textOf l.leadingComments))

/-- What the comments of a file write, in their order. -/
def FileDescriptor.writes (file : FileDescriptor) : List (DocTarget × String) :=
  file.locations.filterMap file.write?

/-- Does a comment of the file belong to the target? -/
def FileDescriptor.Documents (file : FileDescriptor) (target : DocTarget) : Prop :=
  ∃ l ∈ file.locations, textOf l.leadingComments ≠ "" ∧ file.resolve l.path = some target

theorem FileDescriptor.documents_iff (file : FileDescriptor) (target : DocTarget) :
    file.Documents target ↔ target ∈ file.writes.map Prod.fst := by
  simp only [Documents, writes, List.mem_map, List.mem_filterMap]
  constructor
  · rintro ⟨l, hl, hcomment, hpath⟩
    exact ⟨_, ⟨l, hl, by rw [write?, if_neg (by simpa using hcomment), hpath]; rfl⟩, rfl⟩
  · rintro ⟨w, ⟨l, hl, hw⟩, rfl⟩
    rw [write?] at hw
    split at hw
    · cases hw
    · rename_i hcomment
      obtain ⟨target, hpath, rfl⟩ := Option.map_eq_some_iff.1 hw
      exact ⟨l, hl, by simpa using hcomment, hpath⟩

namespace SymbolTable

theorem documentLocation_eq (file : FileDescriptor) (t : SymbolTable) (l : Location) :
    documentLocation file t l
      = (file.write? l).elim t fun w => t.document w.1 w.2 := by
  rw [documentLocation, FileDescriptor.write?]
  split
  · rfl
  · cases file.resolve l.path <;> rfl

theorem documentFile_eq (t : SymbolTable) (file : FileDescriptor) :
    t.documentFile file = t.documentAll file.writes := by
  rw [documentFile, documentAll, FileDescriptor.writes, List.foldl_filterMap]
  congr 1
  funext t l
  rw [documentLocation_eq]
  cases file.write? l <;> rfl

/-- A text is lost when its target is written to later. -/
theorem documentAll_document {ws : List (DocTarget × String)} {a : DocTarget}
    (h : a ∈ ws.map Prod.fst) (t : SymbolTable) (x : String) :
    (t.document a x).documentAll ws = t.documentAll ws := by
  induction ws generalizing t with
  | nil => cases h
  | cons w ws ih =>
      change ((t.document a x).document w.1 w.2).documentAll ws
        = (t.document w.1 w.2).documentAll ws
      by_cases hw : w.1 = a
      · rw [hw, document_document_self]
      · have hmem : a ∈ ws.map Prod.fst := (List.mem_cons.1 h).resolve_left (Ne.symm hw)
        rw [document_comm w.2 x t hw, ih hmem]

/-- Writes are lost when all their targets are written to later. -/
theorem documentAll_documentAll {us ws : List (DocTarget × String)}
    (h : us.map Prod.fst ⊆ ws.map Prod.fst) (t : SymbolTable) :
    (t.documentAll us).documentAll ws = t.documentAll ws := by
  induction us generalizing t with
  | nil => rfl
  | cons u us ih =>
      obtain ⟨hu, hus⟩ := List.cons_subset.1 h
      calc ((t.document u.1 u.2).documentAll us).documentAll ws
          = (t.document u.1 u.2).documentAll ws := ih hus _
        _ = t.documentAll ws := documentAll_document hu t u.2

end SymbolTable

/-! ## What is kept -/

/-- One message is another one but for the documentation of named targets. -/
structure Message.KeptBut (named : DocTarget → Prop) (id : String) (m m' : Message) : Prop where
  documentation : ¬named (.message id) → m'.documentation = m.documentation
  fields : PartsKeptBut (Field.part id) named m.fields m'.fields
  oneOfs : PartsKeptBut (OneOf.part id) named m.oneOfs m'.oneOfs

/-- One enum is another one but for the documentation of named targets. -/
structure Enum.KeptBut (named : DocTarget → Prop) (id : String) (e e' : Enum) : Prop where
  documentation : ¬named (.enum id) → e'.documentation = e.documentation
  values : PartsKeptBut (EnumValue.part id) named e.values e'.values

/-- One service is another one but for the documentation of named targets. -/
structure Service.KeptBut (named : DocTarget → Prop) (id : String) (s s' : Service) : Prop where
  documentation : ¬named (.service id) → s'.documentation = s.documentation
  methods : PartsKeptBut (Method.part id) named s.methods s'.methods

/-- The elements of one table are those of another but for the documentation of named targets. -/
structure SymbolTable.KeptBut (named : DocTarget → Prop) (t t' : SymbolTable) : Prop where
  messages : ∀ id m, t.message? id = some m →
    ∃ m', t'.message? id = some m' ∧ m.KeptBut named id m'
  enums : ∀ id e, t.enum? id = some e → ∃ e', t'.enum? id = some e' ∧ e.KeptBut named id e'
  services : ∀ id s, t.service? id = some s →
    ∃ s', t'.service? id = some s' ∧ s.KeptBut named id s'

section KeptBut

variable {named named' : DocTarget → Prop} (id : String)

theorem Message.keptBut_document (target : DocTarget) (text : String) (m : Message) :
    m.KeptBut (· = target) id (m.document id target text) := by
  rw [Message.document_eq]
  exact ⟨fun h => if_neg h, partsKeptBut_writeFirst target text m.fields,
    partsKeptBut_writeFirst target text m.oneOfs⟩

theorem Enum.keptBut_document (target : DocTarget) (text : String) (e : Enum) :
    e.KeptBut (· = target) id (e.document id target text) := by
  rw [Enum.document_eq]
  exact ⟨fun h => if_neg h, partsKeptBut_writeFirst target text e.values⟩

theorem Service.keptBut_document (target : DocTarget) (text : String) (s : Service) :
    s.KeptBut (· = target) id (s.document id target text) := by
  rw [Service.document_eq]
  exact ⟨fun h => if_neg h, partsKeptBut_writeFirst target text s.methods⟩

namespace SymbolTable

theorem keptBut_document (t : SymbolTable) (target : DocTarget) (text : String) :
    t.KeptBut (· = target) (t.document target text) where
  messages id m hm := ⟨_, by rw [message?_document, hm]; rfl, m.keptBut_document id target text⟩
  enums id e he := ⟨_, by rw [enum?_document, he]; rfl, e.keptBut_document id target text⟩
  services id s hs := ⟨_, by rw [service?_document, hs]; rfl, s.keptBut_document id target text⟩

theorem KeptBut.refl (t : SymbolTable) : t.KeptBut named t where
  messages _ m hm := ⟨m, hm, fun _ => rfl, .refl _, .refl _⟩
  enums _ e he := ⟨e, he, fun _ => rfl, .refl _⟩
  services _ s hs := ⟨s, hs, fun _ => rfl, .refl _⟩

theorem KeptBut.trans {t t' t'' : SymbolTable} (h : t.KeptBut named t')
    (h' : t'.KeptBut named t'') : t.KeptBut named t'' where
  messages id m hm := by
    obtain ⟨m', hm', hk⟩ := h.messages id m hm
    obtain ⟨m'', hm'', hk'⟩ := h'.messages id m' hm'
    exact ⟨m'', hm'', fun hn => (hk'.documentation hn).trans (hk.documentation hn),
      hk.fields.trans hk'.fields, hk.oneOfs.trans hk'.oneOfs⟩
  enums id e he := by
    obtain ⟨e', he', hk⟩ := h.enums id e he
    obtain ⟨e'', he'', hk'⟩ := h'.enums id e' he'
    exact ⟨e'', he'', fun hn => (hk'.documentation hn).trans (hk.documentation hn),
      hk.values.trans hk'.values⟩
  services id s hs := by
    obtain ⟨s', hs', hk⟩ := h.services id s hs
    obtain ⟨s'', hs'', hk'⟩ := h'.services id s' hs'
    exact ⟨s'', hs'', fun hn => (hk'.documentation hn).trans (hk.documentation hn),
      hk.methods.trans hk'.methods⟩

theorem KeptBut.mono {t t' : SymbolTable} (h : t.KeptBut named t')
    (hnamed : ∀ target, named target → named' target) : t.KeptBut named' t' where
  messages id m hm := by
    obtain ⟨m', hm', hk⟩ := h.messages id m hm
    exact ⟨m', hm', fun hn => hk.documentation (mt (hnamed _) hn), hk.fields.mono hnamed,
      hk.oneOfs.mono hnamed⟩
  enums id e he := by
    obtain ⟨e', he', hk⟩ := h.enums id e he
    exact ⟨e', he', fun hn => hk.documentation (mt (hnamed _) hn), hk.values.mono hnamed⟩
  services id s hs := by
    obtain ⟨s', hs', hk⟩ := h.services id s hs
    exact ⟨s', hs', fun hn => hk.documentation (mt (hnamed _) hn), hk.methods.mono hnamed⟩

theorem keptBut_documentAll (t : SymbolTable) (ws : List (DocTarget × String)) :
    t.KeptBut (· ∈ ws.map Prod.fst) (t.documentAll ws) := by
  induction ws generalizing t with
  | nil => exact .refl t
  | cons w ws ih =>
      have hhead : t.KeptBut (· ∈ (w :: ws).map Prod.fst) (t.document w.1 w.2) :=
        (t.keptBut_document w.1 w.2).mono fun _ h => h ▸ List.mem_cons_self
      exact hhead.trans ((ih _).mono fun _ => List.mem_cons_of_mem _)

/-- **What attaching the comments of a file changes.**  But for its documentation the table is as
before; the documentation changes for the elements only that a location with a comment names, and
the last comment of an element is the one it has; attaching the comments again changes nothing. -/
theorem documentFile_frame (t : SymbolTable) (file : FileDescriptor) :
    (t.documentFile file).undocumented = t.undocumented ∧
      t.KeptBut file.Documents (t.documentFile file) ∧
      (∀ target, (t.documentFile file).documentation? target
        = (t.documentation? target).map ((file.commentFor target).getD ·)) ∧
      (t.documentFile file).documentFile file = t.documentFile file := by
  refine ⟨undocumented_documentFile t file, ?_, documentation?_documentFile t file, ?_⟩
  · rw [documentFile_eq]
    exact (t.keptBut_documentAll file.writes).mono fun target => (file.documents_iff target).2
  · rw [documentFile_eq, documentFile_eq]
    exact documentAll_documentAll (List.Subset.refl _) t

/-- A comment for the second of two fields with one name goes to the first. -/
example :
    ((((({} : SymbolTable).addMessage
      { id := ".M", fields := [{ id := ".M.f" }, { id := ".M.f" }] }).documentFile
      { messageTypes :=
          [{ name := some "M", fields := [{ name := some "f" }, { name := some "f" }] }]
        sourceInfo := some
          { locations := [{ path := [4, 0, 2, 1], leadingComments := some " text\n" }] } }).message?
      ".M").map fun m => m.fields.map (·.documentation)) = some ["text", ""] := by
  decide +kernel

end SymbolTable

end KeptBut

end ClientGen
