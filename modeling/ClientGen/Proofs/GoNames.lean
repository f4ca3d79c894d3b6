import ClientGen.Codec.Go
import ClientGen.Proofs.Links
import ClientGen.Proofs.Records
import ClientGen.Proofs.Words
import Mathlib.Data.Finset.Card
import Mathlib.Logic.Relation

/-!
# Go names of messages

The Go name of a message is spelled along the messages that enclose it.  The name of a request or a
response type is spelled from the message alone.  This file says what stands before the message's
own name in the one and is missing in the other.

* `SymbolTable.Acyclic` — no message encloses itself.  Linked tables are so
  (`SymbolTable.Linked.acyclic`), and in such a table there are steps enough to reach the outermost
  message (`GoCodec.messageName_of_parent`).
* `GoCodec.scopeName` — what stands in front of a name: the enclosing messages, or else the alias of
  the package.
* `GoCodec.payloadTypeName_exact` — a request type is named as it is declared if and only if nothing
  stands in front of its name.
-/

namespace ClientGen

open Relation (TransGen)

/-! ## Enclosing messages -/

namespace SymbolTable

/-- The message of the identifier `inner` names `outer` as the one that encloses it. -/
def Encloses (t : SymbolTable) (outer inner : String) : Prop :=
  ∃ m, t.message? inner = some m ∧ m.parent = some outer

/-- No message encloses itself, be it through others. -/
def Acyclic (t : SymbolTable) : Prop :=
  ∀ id, ¬TransGen t.Encloses id id

variable {t : SymbolTable}

open scoped Classical in
/-- The messages of the table around the one of an identifier. -/
noncomputable def enclosing (t : SymbolTable) (id : String) : Finset String :=
  t.messages.keys.toFinset.filter fun outer => TransGen t.Encloses outer id

theorem mem_enclosing {outer id : String} :
    outer ∈ t.enclosing id ↔ (t.message? outer).isSome ∧ TransGen t.Encloses outer id := by
  classical
  rw [enclosing, Finset.mem_filter, List.mem_toFinset, Table.mem_keys]
  rfl

theorem card_keys (t : SymbolTable) : t.messages.keys.toFinset.card = t.messages.size := by
  rw [List.toFinset_card_of_nodup t.messages.nodup_keys, Table.size_eq_length (List.Perm.refl _)]

/-- A message is not around itself, so fewer messages are than there are in the table. -/
theorem card_enclosing_lt_size (ht : t.Acyclic) {id : String} {m : Message}
    (hm : t.message? id = some m) : (t.enclosing id).card < t.messages.size := by
  classical
  rw [← card_keys]
  refine Finset.card_lt_card (Finset.ssubset_iff_subset_ne.2 ⟨Finset.filter_subset _ _, ?_⟩)
  intro heq
  have hself : id ∈ t.enclosing id := by
    rw [heq, List.mem_toFinset, Table.mem_keys]
    exact Option.isSome_iff_exists.2 ⟨m, hm⟩
  exact ht id (mem_enclosing.1 hself).2

/-- Fewer messages are around an enclosing message. -/
theorem card_enclosing_lt (ht : t.Acyclic) {outer inner : String} (h : t.Encloses outer inner)
    (houter : (t.message? outer).isSome) : (t.enclosing outer).card < (t.enclosing inner).card := by
  have hsubset : t.enclosing outer ⊆ t.enclosing inner := by
    intro k hk
    obtain ⟨hsome, hpath⟩ := mem_enclosing.1 hk
    exact mem_enclosing.2 ⟨hsome, hpath.tail h⟩
  refine Finset.card_lt_card (Finset.ssubset_iff_of_subset hsubset |>.2 ⟨outer, ?_, ?_⟩)
  · exact mem_enclosing.2 ⟨houter, TransGen.single h⟩
  · exact fun hself => ht outer (mem_enclosing.1 hself).2

/-- **In a linked table no message encloses itself**, as identifiers get longer. -/
theorem Linked.acyclic (h : t.Linked) : t.Acyclic := by
  have hlength : ∀ outer inner, TransGen t.Encloses outer inner →
      outer.length < inner.length := by
    intro outer inner hpath
    induction hpath with
    | single hstep =>
        obtain ⟨m, hm, hparent⟩ := hstep
        exact (h.message _ m hm).parent _ hparent
    | tail _ hstep ih =>
        obtain ⟨m, hm, hparent⟩ := hstep
        exact ih.trans ((h.message _ m hm).parent _ hparent)
  intro id hid
  exact Nat.lt_irrefl _ (hlength id id hid)

end SymbolTable

/-! ## Names -/

namespace GoCodec

/-- The alias of a package and a dot, if the package has one. -/
def qualifier (c : GoCodec) (package : String) : String :=
  match c.packageAlias package with
  | some target => target ++ "."
  | none => ""

/-- What stands in front of the own name of a message: the name of the enclosing message and an
underscore, or else the alias of the package. -/
def scopeName (c : GoCodec) (t : SymbolTable) (m : Message) : String :=
  match m.parent.bind t.message? with
  | some outer => c.messageName t outer ++ "_"
  | none => c.qualifier m.package

variable (c : GoCodec) {t : SymbolTable}

/-- No keyword is in Pascal case. -/
theorem toPascal_eq (name : String) : toPascal name = Naming.toPascalCase name := by
  have hkeywords : ∀ k ∈ goKeywords, ∃ x rest, k.toList = x :: rest ∧ Text.IsAsciiSmall x := by
    have hheads : ∀ k ∈ goKeywords, ∃ n ∈ k.toList.head?.map Char.toNat, 0x61 ≤ n ∧ n ≤ 0x7a := by
      decide
    intro k hk
    obtain ⟨n, hn, hsmall⟩ := hheads k hk
    obtain ⟨x, hx, rfl⟩ := Option.map_eq_some_iff.1 hn
    obtain ⟨rest, hrest⟩ := List.head?_eq_some_iff.1 hx
    exact ⟨x, rest, hrest, hsmall⟩
  rw [toPascal, escapeGoKeyword, if_neg]
  intro hmem
  obtain ⟨x, rest, hx, hsmall⟩ := hkeywords _ hmem
  rw [Naming.toPascalCase, String.toList_ofList] at hx
  exact Naming.not_isAsciiSmall_of_pascal hx hsmall

theorem topLevelName_eq (package name : String) :
    c.topLevelName package name = c.qualifier package ++ Naming.toPascalCase name := by
  rw [topLevelName, qualifier]
  cases c.packageAlias package with
  | some target => rfl
  | none => rw [toPascal_eq, String.empty_append]

theorem qualifier_eq_empty_iff {package : String} :
    c.qualifier package = "" ↔ c.packageAlias package = none := by
  rw [qualifier]
  cases c.packageAlias package with
  | some target => simp
  | none => simp

theorem messageNameWithin_of_none {m : Message} (h : m.parent.bind t.message? = none)
    (steps : Nat) : c.messageNameWithin t steps m = c.topLevelName m.package m.name := by
  cases steps with
  | zero => rfl
  | succ steps => rw [messageNameWithin, h]

theorem messageNameWithin_of_some {m outer : Message}
    (h : m.parent.bind t.message? = some outer) (steps : Nat) :
    c.messageNameWithin t (steps + 1) m
      = c.messageNameWithin t steps outer ++ "_" ++ Naming.toPascalCase m.name := by
  rw [messageNameWithin, h]

/-- As many steps as there are messages around a message are enough for its name. -/
theorem messageNameWithin_eq (ht : t.Acyclic) {id : String} {m : Message}
    (hm : t.message? id = some m) {steps steps' : Nat} (hsteps : (t.enclosing id).card ≤ steps)
    (hsteps' : (t.enclosing id).card ≤ steps') :
    c.messageNameWithin t steps m = c.messageNameWithin t steps' m := by
  induction steps generalizing id m steps' with
  | zero =>
      cases hparent : m.parent.bind t.message? with
      | none => rw [messageNameWithin_of_none c hparent, messageNameWithin_of_none c hparent]
      | some outer =>
          -- the enclosing message would be one of none
          obtain ⟨outerId, hid, houter⟩ := Option.bind_eq_some_iff.1 hparent
          have hlt := SymbolTable.card_enclosing_lt ht ⟨m, hm, hid⟩
            (Option.isSome_iff_exists.2 ⟨outer, houter⟩)
          omega
  | succ steps ih =>
      cases hparent : m.parent.bind t.message? with
      | none => rw [messageNameWithin_of_none c hparent, messageNameWithin_of_none c hparent]
      | some outer =>
          obtain ⟨outerId, hid, houter⟩ := Option.bind_eq_some_iff.1 hparent
          have hlt := SymbolTable.card_enclosing_lt ht ⟨m, hm, hid⟩
            (Option.isSome_iff_exists.2 ⟨outer, houter⟩)
          obtain ⟨steps', rfl⟩ : ∃ n, steps' = n + 1 := Nat.exists_eq_add_one.2 (by omega)
          rw [messageNameWithin_of_some c hparent, messageNameWithin_of_some c hparent,
            ih houter (by omega) (show (t.enclosing outerId).card ≤ steps' by omega)]

/-- **The name of a nested message extends that of the enclosing one**, however deep it is. -/
theorem messageName_of_parent (ht : t.Acyclic) {m outer : Message}
    (h : m.parent.bind t.message? = some outer) :
    c.messageName t m = c.messageName t outer ++ "_" ++ Naming.toPascalCase m.name := by
  obtain ⟨outerId, -, houter⟩ := Option.bind_eq_some_iff.1 h
  have hlt := SymbolTable.card_enclosing_lt_size ht houter
  obtain ⟨size, hsize⟩ : ∃ n, t.messages.size = n + 1 := Nat.exists_eq_add_one.2 (by omega)
  rw [messageName, messageName, hsize, messageNameWithin_of_some c h,
    messageNameWithin_eq c ht houter (show _ ≤ size by omega)
      (show (t.enclosing outerId).card ≤ size + 1 by omega)]

theorem messageName_of_top {m : Message} (h : m.parent.bind t.message? = none) :
    c.messageName t m = c.qualifier m.package ++ Naming.toPascalCase m.name := by
  rw [messageName, messageNameWithin_of_none c h, topLevelName_eq]

theorem messageName_eq_append (ht : t.Acyclic) (m : Message) :
    c.messageName t m = c.scopeName t m ++ Naming.toPascalCase m.name := by
  unfold scopeName
  split
  · rename_i outer h
    exact c.messageName_of_parent ht h
  · rename_i h
    exact c.messageName_of_top h

/-- Nothing stands in front of the name of a message at the top level of a package without alias. -/
theorem scopeName_eq_empty_iff {m : Message} :
    c.scopeName t m = "" ↔ m.parent.bind t.message? = none ∧ c.packageAlias m.package = none := by
  unfold scopeName
  split
  · rename_i outer h
    simp [h]
  · rename_i h
    rw [qualifier_eq_empty_iff, and_iff_right h]

/-! ## Request and response types -/

/-- A request or response type has the own name of its message. -/
theorem payloadTypeName_eq {id : String} {m : Message} (hm : t.message? id = some m) :
    payloadTypeName t id = if id = "" then "" else Naming.toPascalCase m.name := by
  rw [payloadTypeName, hm]
  by_cases h : id = ""
  · subst h
    rfl
  · rw [if_neg h, if_neg (by simpa using h)]

/-- A request or response type is named as it is declared if nothing stands in front of the name.
An empty identifier stands for no type. -/
theorem payloadTypeName_eq_messageName_iff (ht : t.Acyclic) {id : String} {m : Message}
    (hm : t.message? id = some m) :
    payloadTypeName t id = c.messageName t m ↔
      c.scopeName t m = "" ∧ (id = "" → Naming.toPascalCase m.name = "") := by
  rw [payloadTypeName_eq hm, c.messageName_eq_append ht]
  by_cases h : id = ""
  · rw [if_pos h, eq_comm, String.append_eq_empty_iff]
    simp [h]
  · have hfront := @String.append_left_inj (c.scopeName t m) "" (Naming.toPascalCase m.name)
    rw [String.empty_append] at hfront
    rw [if_neg h, eq_comm, hfront]
    simp [h]

end GoCodec

/-- The record of a message has the name that the codec gives the message in its definition. -/
theorem Codec.name_of_messageView {c : Codec} {t : SymbolTable} {m : Message} {v : MessageView}
    (h : c.messageView t m = .ok v) : v.name = c.messageName t m := by
  obtain ⟨messages, rfl⟩ := exists_of_messageView h
  rfl

/-- **A request type is named by the last part of its declared name.**  In a table without cycles
the name of a message is its own name after what encloses it, and a request or response type is
spelled without that front part.  So a client names the type that the model declares if and only if
the message is at the top level of a package without alias. -/
theorem GoCodec.payloadTypeName_exact (c : GoCodec) {t : SymbolTable} (ht : t.Acyclic) {id : String}
    {m : Message} (hm : t.message? id = some m) :
    c.messageName t m = c.scopeName t m ++ Naming.toPascalCase m.name ∧
    (c.scopeName t m = "" ↔ m.parent.bind t.message? = none ∧ c.packageAlias m.package = none) ∧
    (payloadTypeName t id = c.messageName t m ↔
      c.scopeName t m = "" ∧ (id = "" → Naming.toPascalCase m.name = "")) ∧
    ∀ record, c.toCodec.messageView t m = .ok record → ∀ method : Method,
      (method.inputId = id → ((c.toCodec.methodView t method).inputTypeName = record.name ↔
        c.scopeName t m = "" ∧ (id = "" → Naming.toPascalCase m.name = ""))) ∧
      (method.outputId = id → ((c.toCodec.methodView t method).outputTypeName = record.name ↔
        c.scopeName t m = "" ∧ (id = "" → Naming.toPascalCase m.name = ""))) := by
  have hiff := c.payloadTypeName_eq_messageName_iff ht hm
  refine ⟨c.messageName_eq_append ht m, c.scopeName_eq_empty_iff, hiff, ?_⟩
  intro record hrecord method
  have hname : record.name = c.messageName t m := Codec.name_of_messageView hrecord
  rw [hname]
  constructor
  · rintro rfl
    exact hiff
  · rintro rfl
    exact hiff

/-- A book of the library is asked for by the name of its type. -/
theorem book_named :
    (SymbolTable.ofFiles libraryFiles).Acyclic ∧
      ∃ m, (SymbolTable.ofFiles libraryFiles).message? ".library.v1.Book" = some m ∧
        GoCodec.payloadTypeName (SymbolTable.ofFiles libraryFiles) ".library.v1.Book"
          = ({ year := "2024" } : GoCodec).messageName (SymbolTable.ofFiles libraryFiles) m := by
  have ht := (SymbolTable.linked_ofFiles libraryFiles).acyclic
  obtain ⟨m, hm⟩ := Option.isSome_iff_exists.1
    (by decide +kernel : ((SymbolTable.ofFiles libraryFiles).message? ".library.v1.Book").isSome)
  have hscope : ((SymbolTable.ofFiles libraryFiles).message? ".library.v1.Book").map
      (({ year := "2024" } : GoCodec).scopeName (SymbolTable.ofFiles libraryFiles)) = some "" := by
    decide +kernel
  rw [hm, Option.map_some, Option.some_inj] at hscope
  obtain ⟨-, -, hiff, -⟩ := GoCodec.payloadTypeName_exact { year := "2024" } ht hm
  have hid : ".library.v1.Book" ≠ "" := by decide
  exact ⟨ht, m, hm, hiff.2 ⟨hscope, fun h => absurd h hid⟩⟩

/-- A page, which is nested in a book, is asked for by a name that no type has. -/
theorem page_misnamed :
    (SymbolTable.ofFiles libraryFiles).Acyclic ∧
      ∃ m, (SymbolTable.ofFiles libraryFiles).message? ".library.v1.Book.Page" = some m ∧
        ({ year := "2024" } : GoCodec).messageName (SymbolTable.ofFiles libraryFiles) m
          = "Book_Page" ∧
        GoCodec.payloadTypeName (SymbolTable.ofFiles libraryFiles) ".library.v1.Book.Page"
          = "Page" := by
  have ht := (SymbolTable.linked_ofFiles libraryFiles).acyclic
  obtain ⟨m, hm⟩ := Option.isSome_iff_exists.1
    (by decide +kernel :
      ((SymbolTable.ofFiles libraryFiles).message? ".library.v1.Book.Page").isSome)
  have hname : ((SymbolTable.ofFiles libraryFiles).message? ".library.v1.Book.Page").map
      (({ year := "2024" } : GoCodec).messageName (SymbolTable.ofFiles libraryFiles))
        = some "Book_Page" := by
    decide +kernel
  rw [hm, Option.map_some, Option.some_inj] at hname
  exact ⟨ht, m, hm, hname, by decide +kernel⟩

end ClientGen
