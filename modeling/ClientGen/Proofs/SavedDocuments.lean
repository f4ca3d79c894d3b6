import ClientGen.Proofs.PathSyntax
import ClientGen.Proofs.QuotedStrings
import ClientGen.Proofs.Replays
import ClientGen.Proofs.Utf8Texts

/-!
# A layer that was saved is loaded

The document of a layer is a sequence of statements, and each of them leads a draft of the document
to the next one: a header opens its table, and a member adds to it.  What the members of the last
draft say is the layer again.  A setting that was left out is missing there and so not set, and an
empty table, which was left out as well, is empty when it is missing.

* `Toml.member_writeMember` — a line is read as it was written.
* `Toml.leads_writeTable` — a table is read as it was written.
* `Config.document_toText` — the members of the document of a layer.
* `Config.loadsBack` — every layer is read from its document.
* `Config.load_of_save` — after a layer was saved it is loaded.
-/

namespace ClientGen.Toml

/-! ## Statements -/

/-- **A line is read as it was written.** -/
theorem member_writeMember (m : String × String) (rest : List Char) :
    member (writeMember m ++ rest) = some (([m.1], .string m.2), '\n' :: rest) := by
  obtain ⟨key, s⟩ := m
  have hkey : dottedKey (writeMember (key, s) ++ rest)
      = some ([key], '=' :: ' ' :: (writeString s ++ '\n' :: rest)) := by
    have hends : EndsKey (' ' :: '=' :: ' ' :: (writeString s ++ '\n' :: rest)) := by
      rintro _ ⟨⟩
      decide
    have hskip : skipGap (' ' :: '=' :: ' ' :: (writeString s ++ '\n' :: rest))
        = '=' :: ' ' :: (writeString s ++ '\n' :: rest) := rfl
    have hread := dottedKey_writeKey key hends (by rw [hskip]; simp)
    rw [hskip] at hread
    simpa [writeMember] using hread
  have hstring : stringScalar (writeString s ++ '\n' :: rest) = some (s, '\n' :: rest) := by
    refine stringScalar_writeString s ?_
    rintro _ ⟨⟩
    decide
  have hscalar : scalar (writeString s ++ '\n' :: rest) = some (.string s, '\n' :: rest) := by
    obtain ⟨c, more, hwritten, hquote⟩ := exists_writeString s
    rw [hwritten] at hstring ⊢
    rcases hquote with rfl | rfl
    all_goals
      rw [List.cons_append] at hstring ⊢
      simp [scalar, hstring]
  have hgap : skipGap (' ' :: (writeString s ++ '\n' :: rest)) = writeString s ++ '\n' :: rest := by
    obtain ⟨c, more, hwritten, hquote⟩ := exists_writeString s
    rw [hwritten]
    rcases hquote with rfl | rfl <;> rfl
  have hvalue : ∀ fuel depth, valueWithin (fuel + 1) depth (writeString s ++ '\n' :: rest)
      = some (.string s, '\n' :: rest) := by
    intro fuel depth
    rw [← hscalar]
    obtain ⟨c, more, hwritten, hquote⟩ := exists_writeString s
    rw [hwritten]
    rcases hquote with rfl | rfl <;> simp [valueWithin]
  rw [member, memberWithin, hkey]
  simp only [hgap, hvalue, Option.map_some]

/-- A text that starts like a key is no empty line. -/
theorem skipLines_cons {c : Char} (h : c ∉ lineMarks) (cs : List Char) :
    skipLines false (c :: cs) = some (c :: cs) := by
  have hfeed : c ≠ '\n' := fun hc => h (by rw [hc]; decide)
  have hreturn : c ≠ '\r' := fun hc => h (by rw [hc]; decide)
  have hcomment : c ≠ '#' := fun hc => h (by rw [hc]; decide)
  rw [skipLines.eq_5 c cs hfeed (fun _ hc _ => hreturn hc), isGap_of_notMem h]
  simp [hcomment]

namespace Draft

/-- A line adds to the table that was opened last. -/
theorem statement_writeMember (d : Draft) (m : String × String) (rest : List Char) :
    d.statement (writeMember m ++ rest) = (d.add [m.1] (.string m.2)).map (·, rest) := by
  have hread := member_writeMember m rest
  obtain ⟨c, more, hwritten, hfirst⟩ := exists_writeKey m.1
  have hbracket : c ≠ '[' := fun hc => hfirst (by rw [hc]; decide)
  have hstart : ∃ more, writeMember m ++ rest = c :: more := by
    rw [writeMember, hwritten]
    exact ⟨_, rfl⟩
  obtain ⟨more, hstart⟩ := hstart
  rw [hstart] at hread ⊢
  rw [statement.eq_3 d _ (fun _ he => hbracket (List.cons.inj he).1)
    (fun _ he => hbracket (List.cons.inj he).1), hread]
  have hend : endLine ('\n' :: rest) = some rest := rfl
  simp only [hend]
  cases d.add [m.1] (.string m.2) <;> rfl

/-- A header opens its table. -/
theorem statement_header (d : Draft) (name : String) (rest : List Char) :
    d.statement ('[' :: (writeKey name ++ ']' :: '\n' :: rest))
      = (d.openAt Members.openTable [name]).map (·, rest) := by
  have hends : EndsKey (']' :: '\n' :: rest) := by
    rintro _ ⟨⟩
    decide
  have hskip : skipGap (']' :: '\n' :: rest) = ']' :: '\n' :: rest := rfl
  have hread := dottedKey_writeKey name hends (by rw [hskip]; simp)
  rw [hskip] at hread
  obtain ⟨c, more, hwritten, hfirst⟩ := exists_writeKey name
  have hbracket : c ≠ '[' := fun hc => hfirst (by rw [hc]; decide)
  rw [hwritten, List.cons_append] at hread ⊢
  rw [statement.eq_2 d _ (fun _ he => hbracket (List.cons.inj he).1), hread]
  have hend : endLine ('\n' :: rest) = some rest := rfl
  simp only [hend]
  cases d.openAt Members.openTable [name] <;> rfl

/-! ## Drafts -/

variable {d d' d'' : Draft} {text text' : List Char}

/-- Reading a text as statements, of which it has no more than characters, leads from a draft to
another one. -/
def Leads (d : Draft) (text : List Char) (d' : Draft) : Prop :=
  ∃ k ≤ text.length, ∀ n rest, statements (n + k) d (text ++ rest) = statements n d' rest

theorem Leads.nil (d : Draft) : d.Leads [] d :=
  ⟨0, Nat.le_refl 0, fun _ _ => rfl⟩

theorem Leads.append (h : d.Leads text d') (h' : d'.Leads text' d'') :
    d.Leads (text ++ text') d'' := by
  obtain ⟨k, hk, hread⟩ := h
  obtain ⟨k', hk', hread'⟩ := h'
  refine ⟨k' + k, ?_, fun n rest => ?_⟩
  · rw [List.length_append]
    omega
  · rw [← Nat.add_assoc, List.append_assoc, hread, hread']

/-- An empty line leads nowhere else. -/
theorem leads_blank (d : Draft) : d.Leads ['\n'] d := by
  refine ⟨0, Nat.zero_le _, fun n rest => ?_⟩
  cases n with
  | zero => rfl
  | succ n => rw [Nat.add_zero, statements, statements, List.singleton_append, skipLines]

/-- A statement leads to what it makes of the draft. -/
theorem leads_of_statement (hempty : text ≠ [])
    (hskip : ∀ rest, skipLines false (text ++ rest) = some (text ++ rest))
    (hread : ∀ rest, d.statement (text ++ rest) = some (d', rest)) : d.Leads text d' := by
  obtain ⟨c, more, rfl⟩ := List.exists_cons_of_ne_nil hempty
  refine ⟨1, Nat.succ_le_succ (Nat.zero_le _), fun n rest => ?_⟩
  rw [statements, hskip, List.cons_append]
  simp only [← List.cons_append, hread]

/-- A document that leads somewhere has the members that it leads to. -/
theorem document_of_leads {s : String} (hmark : dropMark s.toList = s.toList)
    (h : Leads {} s.toList d) : document s = some (Item.membersValue d.root) := by
  obtain ⟨k, hk, hread⟩ := h
  have hbound : s.toList.length + 1 = (s.toList.length - k + 1) + k := by omega
  have hall := hread (s.toList.length - k + 1) []
  rw [List.append_nil] at hall
  rw [document]
  simp only [hmark]
  rw [hbound, hall]
  rfl

/-! ## Tables of strings -/

/-- The draft in which a table with a header is the last one of the root, and was opened last. -/
def inTable (front : Members) (name : String) (inner : Members) : Draft where
  root := front ++ [(name, .table .header inner)]
  current := [name]

/-- What the names of a table of strings stand for. -/
def stringItems (members : List (String × String)) : Members :=
  members.map fun m => (m.1, .value (.string m.2))

variable {front inner : Members} {name : String}

theorem lookup_append_of_none {α : Type} {l : List (String × α)} (h : l.lookup name = none)
    (item : α) : (l ++ [(name, item)]).lookup name = some item := by
  rw [List.lookup_append, h]
  simp

/-- Only the last table of the root is replaced. -/
theorem replace_append_of_none (h : front.lookup name = none) (item item' : Item) :
    Members.replace (front ++ [(name, item)]) name item' = front ++ [(name, item')] := by
  have hfront : front.map (fun m => if m.1 = name then (name, item') else m) = front := by
    refine (List.map_congr_left fun m hm => ?_).trans (List.map_id front)
    have hname := List.lookup_eq_none_iff.1 h m hm
    rw [if_neg fun he => by simp [he] at hname]
    rfl
  rw [Members.replace, List.map_append, hfront]
  simp

/-- A header opens a table after the others. -/
theorem openAt_of_none (h : d.root.lookup name = none) :
    d.openAt Members.openTable [name] = some (inTable d.root name []) := by
  simp [openAt, Members.changeAt, Members.openTable, h, inTable]

/-- A string is added to the table that was opened last. -/
theorem add_string (hfront : front.lookup name = none) {key : String}
    (hkey : inner.lookup key = none) (s : String) :
    (inTable front name inner).add [key] (.string s)
      = some (inTable front name (inner ++ stringItems [(key, s)])) := by
  simp [add, inTable, Members.changeAt, lookup_append_of_none hfront,
    replace_append_of_none hfront, Members.addValue, hkey, stringItems]

theorem lookup_stringItems_eq_none_iff {members : List (String × String)} {key : String} :
    (stringItems members).lookup key = none ↔ key ∉ members.map (·.1) := by
  rw [List.lookup_eq_none_iff, stringItems, List.forall_mem_map]
  simp only [List.mem_map, not_exists, not_and, bne_iff_ne, ne_eq]
  exact ⟨fun h m hm he => h m hm he.symm, fun h m hm he => h m hm he.symm⟩

/-- Lines with different keys lead to what they say. -/
theorem leads_members (hfront : front.lookup name = none) {before members : List (String × String)}
    (hnodup : ((before ++ members).map (·.1)).Nodup) :
    (inTable front name (stringItems before)).Leads (members.flatMap writeMember)
      (inTable front name (stringItems (before ++ members))) := by
  induction members generalizing before with
  | nil =>
      rw [List.append_nil]
      exact .nil _
  | cons m members ih =>
      have hsplit : before ++ m :: members = before ++ [m] ++ members := by simp
      rw [hsplit] at hnodup ⊢
      have hkey : (stringItems before).lookup m.1 = none := by
        rw [lookup_stringItems_eq_none_iff]
        rw [List.map_append, List.map_append] at hnodup
        have hdisjoint := (List.nodup_append.1 (List.nodup_append.1 hnodup).1).2.2
        exact fun hm => hdisjoint m.1 hm m.1 (List.mem_singleton.2 rfl) rfl
      have hfirst : (inTable front name (stringItems before)).Leads (writeMember m)
          (inTable front name (stringItems (before ++ [m]))) := by
        obtain ⟨c, more, hwritten, hc⟩ := exists_writeKey m.1
        have hstart : ∃ more, writeMember m = c :: more := by
          rw [writeMember, hwritten]
          exact ⟨_, rfl⟩
        obtain ⟨more, hstart⟩ := hstart
        refine leads_of_statement (by simp [hstart]) (fun rest => ?_) fun rest => ?_
        · rw [hstart]
          exact skipLines_cons hc _
        · rw [statement_writeMember, add_string hfront hkey, Option.map_some, stringItems,
            stringItems, stringItems, List.map_append]
      rw [List.flatMap_cons]
      exact hfirst.append (ih hnodup)

/-- **A table is read as it was written**, after the tables before it. -/
theorem leads_writeTable (h : d.root.lookup name = none) {members : List (String × String)}
    (hnodup : (members.map (·.1)).Nodup) :
    d.Leads (writeTable name members) (inTable d.root name (stringItems members)) := by
  have hheader : d.Leads ('[' :: (writeKey name ++ [']', '\n'])) (inTable d.root name []) := by
    refine leads_of_statement nofun (fun rest => by simp [skipLines, isGap])
      fun rest => ?_
    have hread := statement_header d name rest
    rw [openAt_of_none h] at hread
    simpa using hread
  have hmembers : (inTable d.root name []).Leads (members.flatMap writeMember)
      (inTable d.root name (stringItems members)) := @leads_members _ _ h [] members hnodup
  simpa [writeTable] using hheader.append hmembers

theorem membersValue_append (members more : Members) :
    Item.membersValue (members ++ more) = Item.membersValue members ++ Item.membersValue more := by
  induction members with
  | nil => rfl
  | cons m members ih =>
      obtain ⟨name, item⟩ := m
      rw [List.cons_append, Item.membersValue, Item.membersValue, ih, List.cons_append]

theorem membersValue_stringItems (members : List (String × String)) :
    Item.membersValue (stringItems members) = members.map fun m => (m.1, .string m.2) := by
  induction members with
  | nil => rfl
  | cons m members ih =>
      obtain ⟨name, s⟩ := m
      rw [stringItems, List.map_cons, List.map_cons, Item.membersValue, Item.toValue]
      exact congrArg _ ih

end Draft

end ClientGen.Toml

namespace ClientGen

open Toml.Draft (inTable stringItems)

/-! ## The members of a document -/

namespace Config

variable {d : Toml.Draft} {name : String}

/-- A table of strings as a member of a document. -/
def stringsMember (name : String) (members : List (String × String)) : String × Toml.Value :=
  (name, .table (members.map fun m => (m.1, .string m.2)))

/-- A table of options as a member of a document, which leaves it out if it is empty. -/
def optionMembers (name : String) (options : Table String String) : List (String × Toml.Value) :=
  if options.entries.isEmpty then [] else [stringsMember name options.entries]

theorem membersValue_inTable (front : Toml.Members) (members : List (String × String)) :
    Toml.Item.membersValue (inTable front name (stringItems members)).root
      = Toml.Item.membersValue front ++ [stringsMember name members] := by
  rw [inTable, Toml.Draft.membersValue_append, Toml.Item.membersValue, Toml.Item.toValue,
    Toml.Draft.membersValue_stringItems]
  rfl

/-- Options lead to a table of their own, if there are any. -/
theorem leads_optionsText (h : d.root.lookup name = none) (options : Table String String) :
    ∃ d' : Toml.Draft, d.Leads (optionsText name options) d' ∧
      Toml.Item.membersValue d'.root
        = Toml.Item.membersValue d.root ++ optionMembers name options ∧
      ∀ other, other ≠ name → d'.root.lookup other = d.root.lookup other := by
  unfold optionsText optionMembers
  split
  · exact ⟨d, .nil d, (List.append_nil _).symm, fun _ _ => rfl⟩
  · refine ⟨inTable d.root name (stringItems options.entries), ?_, membersValue_inTable .., ?_⟩
    · have htable := Toml.Draft.leads_writeTable h options.nodup_keys
      exact (Toml.Draft.leads_blank d).append htable
    · intro other hother
      have hlast : (other == name) = false := by simpa using hother
      simp [inTable, List.lookup_append, List.lookup_cons, hlast]

end Config

/-! ## Settings -/

namespace GeneralSettings

/-- The pairs with a value, with that value. -/
def present (settings : List (String × Option String)) : List (String × String) :=
  settings.filterMap fun (name, value) => value.map fun s => (name, s)

theorem present_cons (name : String) (value : Option String)
    (settings : List (String × Option String)) :
    present ((name, value) :: settings)
      = (value.map fun s => (name, s)).toList ++ present settings := by
  cases value <;> rfl

theorem names_present_sublist (settings : List (String × Option String)) :
    ((present settings).map (·.1)).Sublist (settings.map (·.1)) := by
  induction settings with
  | nil => exact .slnil
  | cons setting settings ih =>
      obtain ⟨name, value⟩ := setting
      rw [present_cons, List.map_append, List.map_cons]
      cases value with
      | none => exact ih.cons name
      | some s => exact ih.cons_cons name

/-- A value is found under its name, and nothing where there is none. -/
theorem lookup_present {settings : List (String × Option String)}
    (hnodup : (settings.map (·.1)).Nodup) {name : String} {value : Option String}
    (h : (name, value) ∈ settings) :
    ((present settings).map fun m => (m.1, Toml.Value.string m.2)).lookup name
      = value.map .string := by
  induction settings with
  | nil => cases h
  | cons setting settings ih =>
      obtain ⟨other, value'⟩ := setting
      rw [List.map_cons, List.nodup_cons] at hnodup
      rw [present_cons, List.map_append, List.lookup_append]
      rcases List.mem_cons.1 h with h | h
      · obtain ⟨rfl, rfl⟩ := Prod.mk.inj h
        have hlater : ((present settings).map fun m => (m.1, Toml.Value.string m.2)).lookup name
            = none := by
          rw [List.lookup_eq_none_iff, List.forall_mem_map]
          rintro m hm
          have hmem := (names_present_sublist settings).subset (List.mem_map_of_mem hm)
          exact bne_iff_ne.2 fun he => hnodup.1 (he ▸ hmem)
        rw [hlater]
        cases value <;> simp
      · have hother : (name == other) = false := by
          rw [beq_eq_false_iff_ne]
          exact fun he => hnodup.1 (he ▸ List.mem_map_of_mem (f := (·.1)) h)
        rw [ih hnodup.2 h]
        cases value' <;> simp [List.lookup_cons, hother]

theorem map_names_zip (g : GeneralSettings) : (names.zip g.values).map (·.1) = names := rfl

theorem nodup_members (g : GeneralSettings) : (g.members.map (·.1)).Nodup := by
  have hnames : names.Nodup := by decide
  exact hnames.sublist (names_present_sublist (names.zip g.values))

/-- The settings that are read one by one, by their names. -/
theorem mapM_names (g : GeneralSettings) {read : String → Option (Option String)}
    (h : ∀ setting ∈ names.zip g.values, read setting.1 = some setting.2) :
    names.mapM read = some g.values := by
  rw [PathTemplate.mapM_eq_some_iff, List.forall₂_iff_zip]
  exact ⟨rfl, fun hsetting => h _ hsetting⟩

/-- **Settings are read from the table that they are written as.** -/
theorem ofToml_members (g : GeneralSettings) :
    ofToml (.table (g.members.map fun m => (m.1, .string m.2))) = some g := by
  have hnames : names.Nodup := by decide
  refine congrArg (Option.map ofValues) (mapM_names g fun setting hsetting => ?_)
  have hlookup : (g.members.map fun m => (m.1, Toml.Value.string m.2)).lookup setting.1
      = setting.2.map .string := lookup_present (by rwa [map_names_zip]) hsetting
  rw [hlookup]
  cases setting.2 <;> rfl

end GeneralSettings

namespace Config

variable {name : String}

/-- **The members of the document of a layer.** -/
theorem document_toText (c : Config) :
    Toml.document c.toText = some (stringsMember "general" c.general.members ::
      (optionMembers "source" c.source ++ optionMembers "codec" c.codec)) := by
  have hgeneral : Toml.Draft.Leads {} (Toml.writeTable "general" c.general.members)
      (inTable [] "general" (stringItems c.general.members)) :=
    Toml.Draft.leads_writeTable rfl c.general.nodup_members
  have hnone : (inTable [] "general" (stringItems c.general.members)).root.lookup "source" = none :=
    rfl
  obtain ⟨d, hsource, hmembers, hlookup⟩ := leads_optionsText hnone c.source
  have hcodec : d.root.lookup "codec" = none := hlookup "codec" (by decide)
  obtain ⟨d', hcodec, hmembers', -⟩ := leads_optionsText hcodec c.codec
  have hall := (hgeneral.append hsource).append hcodec
  have hmark : Toml.dropMark c.toText.toList = c.toText.toList := by
    rw [toText, String.toList_ofList]
    rfl
  rw [Toml.Draft.document_of_leads (d := d') hmark, hmembers', hmembers, membersValue_inTable]
  · simp [Toml.Item.membersValue]
  · rw [toText, String.toList_ofList]
    exact hall

/-- **Options are read from the table that they are written as.** -/
theorem stringsOfToml_entries (options : Table String String) :
    stringsOfToml (.table (options.entries.map fun m => (m.1, .string m.2))) = some options := by
  have hall : ∀ {read : String × Toml.Value → Option (String × String)},
      (∀ m, read (m.1, .string m.2) = some m) →
      (options.entries.map fun m => (m.1, Toml.Value.string m.2)).mapM read
        = some options.entries := by
    intro read hread
    rw [PathTemplate.mapM_eq_some_iff, List.forall₂_map_left_iff, List.forall₂_same]
    exact fun m _ => hread m
  unfold stringsOfToml
  simp only [Toml.Value.members?, Option.bind_eq_bind, Option.bind_some]
  rw [hall fun _ => rfl]
  exact congrArg some options.empty_overlay

/-- Options are read from the members of a document; where they were left out there are none. -/
theorem readMember_of_lookup {members : List (String × Toml.Value)}
    {options : Table String String}
    (h : members.lookup name = (optionMembers name options).lookup name) :
    readMember members name ∅ stringsOfToml = some options := by
  unfold readMember
  rw [h, optionMembers]
  split_ifs with hempty
  · have hoptions : options = ∅ := by
      refine Table.ext_get? fun key => ?_
      rw [Table.get?, List.isEmpty_iff.1 hempty]
      rfl
    rw [hoptions]
    rfl
  · rw [stringsMember, List.lookup_cons, beq_self_eq_true]
    exact stringsOfToml_entries options

theorem lookup_optionMembers_of_ne {other : String} (h : other ≠ name)
    (options : Table String String) : (optionMembers name options).lookup other = none := by
  have hother : (other == name) = false := by simpa using h
  unfold optionMembers
  split <;> simp [stringsMember, List.lookup_cons, hother]

/-- **Every layer is read from its document.** -/
theorem ofText_toText (c : Config) : ofText c.toText = .ok c := by
  have hgeneral : readMember (stringsMember "general" c.general.members ::
      (optionMembers "source" c.source ++ optionMembers "codec" c.codec)) "general" {}
        GeneralSettings.ofToml = some c.general := by
    rw [readMember, stringsMember, List.lookup_cons, beq_self_eq_true]
    exact c.general.ofToml_members
  have hsource : readMember (stringsMember "general" c.general.members ::
      (optionMembers "source" c.source ++ optionMembers "codec" c.codec)) "source" ∅
        stringsOfToml = some c.source := by
    refine readMember_of_lookup ?_
    rw [stringsMember, List.lookup_cons, List.lookup_append,
      lookup_optionMembers_of_ne (by decide) c.codec, Option.or_none]
    rfl
  have hcodec : readMember (stringsMember "general" c.general.members ::
      (optionMembers "source" c.source ++ optionMembers "codec" c.codec)) "codec" ∅
        stringsOfToml = some c.codec := by
    refine readMember_of_lookup ?_
    rw [stringsMember, List.lookup_cons, List.lookup_append,
      lookup_optionMembers_of_ne (by decide) c.source, Option.none_or]
    rfl
  have hmembers : ofMembers (stringsMember "general" c.general.members ::
      (optionMembers "source" c.source ++ optionMembers "codec" c.codec)) = some c := by
    unfold ofMembers
    rw [hgeneral, hsource, hcodec]
    rfl
  rw [ofText, document_toText, Option.bind_some, hmembers]

/-- The saved form of every layer is read as that layer. -/
theorem loadsBack (c : Config) : c.LoadsBack :=
  ⟨c.toText, Text.Utf8.decode?_encode c.toText, ofText_toText c⟩

/-- **A layer that was saved is loaded**, whatever its strings are. -/
theorem load_of_save {c : Config} {dir : String} {w w' : World}
    (h : (c.save dir).run.run w = (.ok (), w')) :
    (Config.load dir).run.run w' = (.ok c, w') :=
  (savedIn_of_save h).load c.loadsBack

/-- Strings that bare keys and plain quotes do not suit. -/
def oddConfig : Config where
  general :=
    { specificationSource := some "", templateDir := some "a\\b\n'''c\x01\"\"\"" }
  codec := Table.ofList [("", "\r\n"), ("a.b", "\x00"), ("\"\n'", "\t'\"")]

/-- Odd strings are saved, and then loaded. -/
theorem oddConfig_reloaded :
    ∃ w', (oddConfig.save "out").run.run shopWorld = (.ok (), w') ∧
      (Config.load "out").run.run w' = (.ok oddConfig, w') := by
  have hsaved : ((oddConfig.save "out").run.run shopWorld).1 = .ok () := by decide +kernel
  generalize hrun : (oddConfig.save "out").run.run shopWorld = result at hsaved
  obtain ⟨_, w'⟩ := result
  obtain rfl := hsaved
  exact ⟨w', rfl, load_of_save hrun⟩

end Config

end ClientGen
