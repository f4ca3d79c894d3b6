import ClientGen.Proofs.SymbolTable
import ClientGen.Schema.Documentation
import Mathlib.Data.List.Basic

/-!
# What attaching comments does to a symbol table

A comment is written through one of seven kinds of targets.  This file treats the targets as the
slots of a store: `SymbolTable.documentation?` reads a slot, and

* `documentation?_document` — writing a slot changes that slot, if the table has it, and no other
  slot;
* `undocumented_document` — and it changes nothing but documentation;
* `documentation?_documentFile` — after the comments of a file a slot holds the last comment for it,
  or else what it held before.
-/

namespace ClientGen

/-! ## Changing the first item that passes a test -/

theorem map_modifyFirst {α β : Type} {p : α → Bool} {f : α → α} {g : α → β}
    (h : ∀ a, g (f a) = g a) (l : List α) : (modifyFirst p f l).map g = l.map g := by
  induction l with
  | nil => rfl
  | cons a l ih =>
      rw [modifyFirst]
      split
      · rw [List.map_cons, List.map_cons, h]
      · rw [List.map_cons, List.map_cons, ih]

/-- Changing the first item of a key changes what is found under that key, and only there. -/
theorem find?_modifyFirst {α : Type} (key : α → String) {f : α → α}
    (h : ∀ a, key (f a) = key a) (k k' : String) (l : List α) :
    (modifyFirst (fun a => decide (key a = k)) f l).find? (fun a => decide (key a = k'))
      = (l.find? fun a => decide (key a = k')).map fun a => if k' = k then f a else a := by
  induction l with
  | nil => rfl
  | cons a l ih =>
      rw [modifyFirst]
      by_cases hk : k' = k
      · subst hk
        by_cases ha : key a = k'
        · simp [ha, h]
        · simpa [ha] using ih
      · by_cases ha : key a = k
        · simp [ha, h, hk, Ne.symm hk]
        · simp only [ha, decide_false, Bool.false_eq_true, if_false, List.find?_cons, ih]
          split <;> simp [hk]

theorem modifyFirst_eq_self {α : Type} {p : α → Bool} {f : α → α} {l : List α}
    (h : l.find? p = none) : modifyFirst p f l = l := by
  induction l with
  | nil => rfl
  | cons a l ih =>
      rw [List.find?_cons] at h
      rw [modifyFirst]
      cases hp : p a with
      | true =>
          rw [hp] at h
          cases h
      | false =>
          rw [hp] at h
          rw [if_neg Bool.false_ne_true, ih h]

/-! ## Elements without their documentation -/

/-- The field without its documentation. -/
def Field.undocumented (f : Field) : Field := { f with documentation := "" }

/-- The group without its documentation. -/
def OneOf.undocumented (o : OneOf) : OneOf := { o with documentation := "" }

/-- The message without its documentation and that of its parts. -/
def Message.undocumented (m : Message) : Message :=
  { m with
    documentation := ""
    fields := m.fields.map Field.undocumented
    oneOfs := m.oneOfs.map OneOf.undocumented }

/-- The enum value without its documentation. -/
def EnumValue.undocumented (v : EnumValue) : EnumValue := { v with documentation := "" }

/-- The enum without its documentation and that of its values. -/
def Enum.undocumented (e : Enum) : Enum :=
  { e with documentation := "", values := e.values.map EnumValue.undocumented }

/-- The method without its documentation. -/
def Method.undocumented (m : Method) : Method := { m with documentation := "" }

/-- The service without its documentation and that of its methods. -/
def Service.undocumented (s : Service) : Service :=
  { s with documentation := "", methods := s.methods.map Method.undocumented }

/-- The table without any documentation. -/
def SymbolTable.undocumented (t : SymbolTable) : SymbolTable where
  messages := t.messages.mapValues Message.undocumented
  enums := t.enums.mapValues Enum.undocumented
  services := t.services.mapValues Service.undocumented

namespace SymbolTable

variable (t : SymbolTable) (id : String)

@[simp] theorem message?_undocumented :
    t.undocumented.message? id = (t.message? id).map Message.undocumented :=
  Table.get?_mapValues ..

@[simp] theorem enum?_undocumented :
    t.undocumented.enum? id = (t.enum? id).map Enum.undocumented :=
  Table.get?_mapValues ..

@[simp] theorem service?_undocumented :
    t.undocumented.service? id = (t.service? id).map Service.undocumented :=
  Table.get?_mapValues ..

end SymbolTable

/-! ## What a comment does to one element -/

/-- The message of the identifier `id` after a comment for a target. -/
def Message.document (id : String) (target : DocTarget) (text : String) (m : Message) : Message :=
  match target with
  | .message id' => if id = id' then { m with documentation := text } else m
  | .field id' field =>
      if id = id' then
        { m with
          fields :=
            modifyFirst (·.id = field) (fun f => { f with documentation := text }) m.fields }
      else m
  | .oneOf id' oneOf =>
      if id = id' then
        { m with
          oneOfs :=
            modifyFirst (·.id = oneOf) (fun o => { o with documentation := text }) m.oneOfs }
      else m
  | _ => m

/-- The enum of the identifier `id` after a comment for a target. -/
def Enum.document (id : String) (target : DocTarget) (text : String) (e : Enum) : Enum :=
  match target with
  | .enum id' => if id = id' then { e with documentation := text } else e
  | .enumValue id' value =>
      if id = id' then
        { e with
          values :=
            modifyFirst (·.name = value) (fun v => { v with documentation := text }) e.values }
      else e
  | _ => e

/-- The service of the identifier `id` after a comment for a target. -/
def Service.document (id : String) (target : DocTarget) (text : String) (s : Service) : Service :=
  match target with
  | .service id' => if id = id' then { s with documentation := text } else s
  | .method id' method =>
      if id = id' then
        { s with
          methods :=
            modifyFirst (·.name = method) (fun m => { m with documentation := text }) s.methods }
      else s
  | _ => s

section Elements

variable (id : String) (target : DocTarget) (text : String)

theorem Message.undocumented_document (m : Message) :
    (m.document id target text).undocumented = m.undocumented := by
  unfold Message.document
  split
  · split <;> rfl
  · split
    · simp only [Message.undocumented]
      rw [map_modifyFirst (g := Field.undocumented)]
      exact fun _ => rfl
    · rfl
  · split
    · simp only [Message.undocumented]
      rw [map_modifyFirst (g := OneOf.undocumented)]
      exact fun _ => rfl
    · rfl
  · rfl

theorem Enum.undocumented_document (e : Enum) :
    (e.document id target text).undocumented = e.undocumented := by
  unfold Enum.document
  split
  · split <;> rfl
  · split
    · simp only [Enum.undocumented]
      rw [map_modifyFirst (g := EnumValue.undocumented)]
      exact fun _ => rfl
    · rfl
  · rfl

theorem Service.undocumented_document (s : Service) :
    (s.document id target text).undocumented = s.undocumented := by
  unfold Service.document
  split
  · split <;> rfl
  · split
    · simp only [Service.undocumented]
      rw [map_modifyFirst (g := Method.undocumented)]
      exact fun _ => rfl
    · rfl
  · rfl

end Elements

namespace SymbolTable

variable (t : SymbolTable) (target : DocTarget) (text id : String)

/-- A change under a condition. -/
theorem ite_map_eq {α : Type} {c : Prop} [Decidable c] (f : α → α) (o : Option α) :
    (if c then o.map f else o) = o.map fun a => if c then f a else a := by
  by_cases hc : c <;> simp [hc]

theorem message?_document :
    (t.document target text).message? id
      = (t.message? id).map (Message.document id target text) := by
  cases target with
  | message id' | field id' _ | oneOf id' _ =>
      rw [document, message?_modifyMessage, ite_map_eq]
      rfl
  | enum _ | enumValue _ _ | service _ | method _ _ => exact Option.map_id'.symm

theorem enum?_document :
    (t.document target text).enum? id = (t.enum? id).map (Enum.document id target text) := by
  cases target with
  | enum id' | enumValue id' _ =>
      rw [document, enum?_modifyEnum, ite_map_eq]
      rfl
  | message _ | field _ _ | oneOf _ _ | service _ | method _ _ => exact Option.map_id'.symm

theorem service?_document :
    (t.document target text).service? id
      = (t.service? id).map (Service.document id target text) := by
  cases target with
  | service id' | method id' _ =>
      rw [document, service?_modifyService, ite_map_eq]
      rfl
  | message _ | field _ _ | oneOf _ _ | enum _ | enumValue _ _ => exact Option.map_id'.symm

/-- **A comment changes nothing but documentation.** -/
theorem undocumented_document : (t.document target text).undocumented = t.undocumented := by
  refine ext_get? (fun id => ?_) (fun id => ?_) (fun id => ?_)
  · rw [message?_undocumented, message?_document, message?_undocumented, Option.map_map]
    exact congrArg (Option.map · _) (funext (Message.undocumented_document id target text))
  · rw [enum?_undocumented, enum?_document, enum?_undocumented, Option.map_map]
    exact congrArg (Option.map · _) (funext (Enum.undocumented_document id target text))
  · rw [service?_undocumented, service?_document, service?_undocumented, Option.map_map]
    exact congrArg (Option.map · _) (funext (Service.undocumented_document id target text))

end SymbolTable

/-! ## The documentation of a target -/

/-- The documentation of the message, or of its part, that a target names. -/
def Message.documentation? (m : Message) : DocTarget → Option String
  | .message _ => some m.documentation
  | .field _ field => (m.field? field).map (·.documentation)
  | .oneOf _ oneOf => (m.oneOf? oneOf).map (·.documentation)
  | _ => none

/-- The documentation of the enum, or of its value, that a target names. -/
def Enum.documentation? (e : Enum) : DocTarget → Option String
  | .enum _ => some e.documentation
  | .enumValue _ value => (e.values.find? (·.name = value)).map (·.documentation)
  | _ => none

/-- The documentation of the service, or of its method, that a target names. -/
def Service.documentation? (s : Service) : DocTarget → Option String
  | .service _ => some s.documentation
  | .method _ method => (s.methods.find? (·.name = method)).map (·.documentation)
  | _ => none

/-- The documentation of the element that a target names, if the table has the element. -/
def SymbolTable.documentation? (t : SymbolTable) (target : DocTarget) : Option String :=
  match target with
  | .message id | .field id _ | .oneOf id _ => (t.message? id).bind (·.documentation? target)
  | .enum id | .enumValue id _ => (t.enum? id).bind (·.documentation? target)
  | .service id | .method id _ => (t.service? id).bind (·.documentation? target)

section Undocumented

variable (target : DocTarget)

theorem Message.documentation?_undocumented (m : Message) :
    m.undocumented.documentation? target = (m.documentation? target).map fun _ => "" := by
  cases target with
  | field _ _ | oneOf _ _ =>
      simp only [Message.documentation?, Message.field?, Message.oneOf?, Message.undocumented,
        List.find?_map, Option.map_map]
      rfl
  | message _ | enum _ | enumValue _ _ | service _ | method _ _ => rfl

theorem Enum.documentation?_undocumented (e : Enum) :
    e.undocumented.documentation? target = (e.documentation? target).map fun _ => "" := by
  cases target with
  | enumValue _ _ =>
      simp only [Enum.documentation?, Enum.undocumented, List.find?_map, Option.map_map]
      rfl
  | message _ | field _ _ | oneOf _ _ | enum _ | service _ | method _ _ => rfl

theorem Service.documentation?_undocumented (s : Service) :
    s.undocumented.documentation? target = (s.documentation? target).map fun _ => "" := by
  cases target with
  | method _ _ =>
      simp only [Service.documentation?, Service.undocumented, List.find?_map, Option.map_map]
      rfl
  | message _ | field _ _ | oneOf _ _ | enum _ | enumValue _ _ | service _ => rfl

/-- A table without documentation has the same slots, and all are empty. -/
theorem SymbolTable.documentation?_undocumented (t : SymbolTable) :
    t.undocumented.documentation? target = (t.documentation? target).map fun _ => "" := by
  cases target with
  | message id | field id _ | oneOf id _ =>
      simp only [documentation?, message?_undocumented]
      cases t.message? id with
      | none => rfl
      | some m =>
          rw [Option.map_some, Option.bind_some, Option.bind_some,
            Message.documentation?_undocumented]
  | enum id | enumValue id _ =>
      simp only [documentation?, enum?_undocumented]
      cases t.enum? id with
      | none => rfl
      | some e =>
          rw [Option.map_some, Option.bind_some, Option.bind_some,
            Enum.documentation?_undocumented]
  | service id | method id _ =>
      simp only [documentation?, service?_undocumented]
      cases t.service? id with
      | none => rfl
      | some s =>
          rw [Option.map_some, Option.bind_some, Option.bind_some,
            Service.documentation?_undocumented]

end Undocumented

section Slots

variable (id : String) (a : DocTarget) (text : String)

theorem Message.documentation_document (m : Message) :
    (m.document id a text).documentation = if .message id = a then text else m.documentation := by
  cases a with
  | message id' => by_cases h : id = id' <;> simp [Message.document, h]
  | field id' _ | oneOf id' _ => by_cases h : id = id' <;> simp [Message.document, h]
  | enum _ | enumValue _ _ | service _ | method _ _ => simp [Message.document]

theorem Message.field?_document (m : Message) (field : String) :
    (m.document id a text).field? field
      = (m.field? field).map fun f =>
          if .field id field = a then { f with documentation := text } else f := by
  cases a with
  | field id' field' =>
      by_cases h : id = id'
      · simp [Message.document, Message.field?, h, find?_modifyFirst Field.id]
      · simp [Message.document, h]
  | message id' | oneOf id' _ =>
      by_cases h : id = id' <;> simp [Message.document, Message.field?, h]
  | enum _ | enumValue _ _ | service _ | method _ _ => simp [Message.document]

theorem Message.oneOf?_document (m : Message) (oneOf : String) :
    (m.document id a text).oneOf? oneOf
      = (m.oneOf? oneOf).map fun o =>
          if .oneOf id oneOf = a then { o with documentation := text } else o := by
  cases a with
  | oneOf id' oneOf' =>
      by_cases h : id = id'
      · simp [Message.document, Message.oneOf?, h, find?_modifyFirst OneOf.id]
      · simp [Message.document, h]
  | message id' | field id' _ =>
      by_cases h : id = id' <;> simp [Message.document, Message.oneOf?, h]
  | enum _ | enumValue _ _ | service _ | method _ _ => simp [Message.document]

theorem Enum.documentation_document (e : Enum) :
    (e.document id a text).documentation = if .enum id = a then text else e.documentation := by
  cases a with
  | enum id' | enumValue id' _ => by_cases h : id = id' <;> simp [Enum.document, h]
  | message _ | field _ _ | oneOf _ _ | service _ | method _ _ => simp [Enum.document]

theorem Enum.value?_document (e : Enum) (value : String) :
    (e.document id a text).values.find? (·.name = value)
      = (e.values.find? (·.name = value)).map fun v =>
          if .enumValue id value = a then { v with documentation := text } else v := by
  cases a with
  | enumValue id' value' =>
      by_cases h : id = id'
      · simp [Enum.document, h, find?_modifyFirst EnumValue.name]
      · simp [Enum.document, h]
  | enum id' => by_cases h : id = id' <;> simp [Enum.document, h]
  | message _ | field _ _ | oneOf _ _ | service _ | method _ _ => simp [Enum.document]

theorem Service.documentation_document (s : Service) :
    (s.document id a text).documentation = if .service id = a then text else s.documentation := by
  cases a with
  | service id' | method id' _ => by_cases h : id = id' <;> simp [Service.document, h]
  | message _ | field _ _ | oneOf _ _ | enum _ | enumValue _ _ => simp [Service.document]

theorem Service.method?_document (s : Service) (method : String) :
    (s.document id a text).methods.find? (·.name = method)
      = (s.methods.find? (·.name = method)).map fun m =>
          if .method id method = a then { m with documentation := text } else m := by
  cases a with
  | method id' method' =>
      by_cases h : id = id'
      · simp [Service.document, h, find?_modifyFirst Method.name]
      · simp [Service.document, h]
  | service id' => by_cases h : id = id' <;> simp [Service.document, h]
  | message _ | field _ _ | oneOf _ _ | enum _ | enumValue _ _ => simp [Service.document]

end Slots

namespace SymbolTable

variable (t : SymbolTable)

/-- **A comment for a target is read back from that target, and from no other.** -/
theorem documentation?_document (a b : DocTarget) (text : String) :
    (t.document a text).documentation? b
      = if b = a then (t.documentation? b).map fun _ => text else t.documentation? b := by
  cases b with
  | message id =>
      simp only [documentation?, message?_document, Message.documentation?]
      by_cases h : .message id = a <;> cases t.message? id <;>
        simp [Message.documentation_document, h]
  | field id field =>
      simp only [documentation?, message?_document, Message.documentation?]
      cases t.message? id with
      | none => simp
      | some m =>
          by_cases h : .field id field = a <;> cases hm : m.field? field <;>
            simp [Message.field?_document, hm, h]
  | oneOf id oneOf =>
      simp only [documentation?, message?_document, Message.documentation?]
      cases t.message? id with
      | none => simp
      | some m =>
          by_cases h : .oneOf id oneOf = a <;> cases hm : m.oneOf? oneOf <;>
            simp [Message.oneOf?_document, hm, h]
  | enum id =>
      simp only [documentation?, enum?_document, Enum.documentation?]
      by_cases h : .enum id = a <;> cases t.enum? id <;> simp [Enum.documentation_document, h]
  | enumValue id value =>
      simp only [documentation?, enum?_document, Enum.documentation?]
      cases t.enum? id with
      | none => simp
      | some e =>
          by_cases h : .enumValue id value = a <;>
            cases he : e.values.find? (·.name = value) <;> simp [Enum.value?_document, he, h]
  | service id =>
      simp only [documentation?, service?_document, Service.documentation?]
      by_cases h : .service id = a <;> cases t.service? id <;>
        simp [Service.documentation_document, h]
  | method id method =>
      simp only [documentation?, service?_document, Service.documentation?]
      cases t.service? id with
      | none => simp
      | some s =>
          by_cases h : .method id method = a <;>
            cases hs : s.methods.find? (·.name = method) <;> simp [Service.method?_document, hs, h]

end SymbolTable

/-! ## Comments for what is not there -/

namespace SymbolTable

variable {t : SymbolTable} {target : DocTarget} (text id : String)

theorem message?_document_of_none (h : t.documentation? target = none) :
    (t.document target text).message? id = t.message? id := by
  rw [message?_document]
  cases hm : t.message? id with
  | none => rfl
  | some m =>
      rw [Option.map_some]
      unfold Message.document
      split
      · rename_i id'
        by_cases hid : id = id'
        · simp [documentation?, Message.documentation?, ← hid, hm] at h
        · rw [if_neg hid]
      · rename_i id' field
        by_cases hid : id = id'
        · have hnone : m.field? field = none := by
            simpa [documentation?, Message.documentation?, ← hid, hm] using h
          rw [if_pos hid, modifyFirst_eq_self hnone]
        · rw [if_neg hid]
      · rename_i id' oneOf
        by_cases hid : id = id'
        · have hnone : m.oneOf? oneOf = none := by
            simpa [documentation?, Message.documentation?, ← hid, hm] using h
          rw [if_pos hid, modifyFirst_eq_self hnone]
        · rw [if_neg hid]
      · rfl

theorem enum?_document_of_none (h : t.documentation? target = none) :
    (t.document target text).enum? id = t.enum? id := by
  rw [enum?_document]
  cases he : t.enum? id with
  | none => rfl
  | some e =>
      rw [Option.map_some]
      unfold Enum.document
      split
      · rename_i id'
        by_cases hid : id = id'
        · simp [documentation?, Enum.documentation?, ← hid, he] at h
        · rw [if_neg hid]
      · rename_i id' value
        by_cases hid : id = id'
        · have hnone : e.values.find? (·.name = value) = none := by
            simpa [documentation?, Enum.documentation?, ← hid, he] using h
          rw [if_pos hid, modifyFirst_eq_self hnone]
        · rw [if_neg hid]
      · rfl

theorem service?_document_of_none (h : t.documentation? target = none) :
    (t.document target text).service? id = t.service? id := by
  rw [service?_document]
  cases hs : t.service? id with
  | none => rfl
  | some s =>
      rw [Option.map_some]
      unfold Service.document
      split
      · rename_i id'
        by_cases hid : id = id'
        · simp [documentation?, Service.documentation?, ← hid, hs] at h
        · rw [if_neg hid]
      · rename_i id' method
        by_cases hid : id = id'
        · have hnone : s.methods.find? (·.name = method) = none := by
            simpa [documentation?, Service.documentation?, ← hid, hs] using h
          rw [if_pos hid, modifyFirst_eq_self hnone]
        · rw [if_neg hid]
      · rfl

/-- A comment for an element that the table does not have changes nothing. -/
theorem document_eq_self (h : t.documentation? target = none) : t.document target text = t :=
  ext_get? (fun id => message?_document_of_none text id h)
    (fun id => enum?_document_of_none text id h) fun id => service?_document_of_none text id h

end SymbolTable

/-! ## The comments of a file -/

/-- Is there a comment at the location, and does the location belong to the target? -/
def FileDescriptor.comments (file : FileDescriptor) (target : DocTarget) (l : Location) : Bool :=
  !(textOf l.leadingComments).isEmpty && decide (file.resolve l.path = some target)

/-- The text of the last comment for a target. -/
def FileDescriptor.commentFor (file : FileDescriptor) (target : DocTarget) : Option String :=
  (file.locations.filter (file.comments target)).getLast?.map fun l =>
    trimComment (textOf l.leadingComments)

namespace SymbolTable

theorem undocumented_documentLocation (file : FileDescriptor) (t : SymbolTable) (l : Location) :
    (t.documentLocation file l).undocumented = t.undocumented := by
  simp only [documentLocation]
  split
  · rfl
  · split
    · exact undocumented_document ..
    · rfl

theorem undocumented_documentFile (t : SymbolTable) (file : FileDescriptor) :
    (t.documentFile file).undocumented = t.undocumented := by
  rw [documentFile]
  induction file.locations generalizing t with
  | nil => rfl
  | cons l ls ih => rw [List.foldl_cons, ih, undocumented_documentLocation]

/-- A location writes to the target that it belongs to, if it has a comment. -/
theorem documentation?_documentLocation (file : FileDescriptor) (t : SymbolTable) (l : Location)
    (target : DocTarget) :
    (documentLocation file t l).documentation? target
      = if file.comments target l then
          (t.documentation? target).map fun _ => trimComment (textOf l.leadingComments)
        else t.documentation? target := by
  unfold documentLocation FileDescriptor.comments
  by_cases hempty : (textOf l.leadingComments).isEmpty = true
  · simp [hempty]
  · cases hpath : file.resolve l.path with
    | none => simp [hempty]
    | some target' =>
        simp only [hempty, Bool.false_eq_true, if_false, documentation?_document]
        by_cases h : target = target' <;> simp [h, eq_comm]

/-- The last location that writes to a target decides. -/
theorem documentation?_foldl_documentLocation (file : FileDescriptor) (target : DocTarget)
    (ls : List Location) (t : SymbolTable) :
    (ls.foldl (documentLocation file) t).documentation? target
      = (t.documentation? target).map
          (((ls.filter (file.comments target)).getLast?.map fun l =>
            trimComment (textOf l.leadingComments)).getD ·) := by
  induction ls generalizing t with
  | nil => simp
  | cons l ls ih =>
      rw [List.foldl_cons, ih, documentation?_documentLocation, List.filter_cons]
      by_cases h : file.comments target l = true
      · rw [if_pos h, if_pos h, Option.map_map, List.getLast?_cons]
        cases (ls.filter (file.comments target)).getLast? <;> rfl
      · rw [if_neg h, if_neg h]

/-- **After the comments of a file a target holds the last comment for it**, or else what it held
before. -/
theorem documentation?_documentFile (t : SymbolTable) (file : FileDescriptor) (target : DocTarget) :
    (t.documentFile file).documentation? target
      = (t.documentation? target).map ((file.commentFor target).getD ·) :=
  documentation?_foldl_documentLocation ..

end SymbolTable

end ClientGen
