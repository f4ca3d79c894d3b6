import ClientGen.Proofs.GoNames
import ClientGen.Proofs.Links
import Mathlib.Logic.Hydra

/-!
# Walks through a linked table come to an end

Names are spelled along the messages around a message, views are built along the messages nested in
it, and the search for the time package keeps a list of messages to look at.  Nothing in a table
bounds these walks but its links.  In a linked table each of them ends, and the bounds that the
definitions carry cut nothing off: what is computed with a bound satisfies the equation of the
recursion without one.

* `eq_of_rank_le` — a recursion with a bound gives the same result under all bounds that are large
  enough for its argument.
* `iff_exists_of_calls` — a recursion that asks whether there is something, here or in a call, finds
  what the calls lead to.
* `SymbolTable.Around`, `Inside`, `PartOf` — the steps from a message to the one around it, to those
  nested in it, and from a map field to its key and value.
* `GoCodec.searchRound`, `GoCodec.Searches` — the search for the time package, round by round.
* `GoCodec.walksEnd_ofCompiled` — the walks through the table of an API end, with stand-ins and
  without.
-/

namespace ClientGen

open Relation (TransGen ReflTransGen)

/-! ## Recursion with a bound -/

/-- A recursion with a bound on its depth has one result under all bounds that the rank of the
argument does not exceed, if the rank gets smaller from call to call. -/
theorem eq_of_rank_le {α β : Type} {f : Nat → α → β} (calls : α → α → Prop) (rank : α → Nat)
    (hrank : ∀ a b, calls a b → rank b < rank a)
    (hleaf : ∀ n a, (∀ b, ¬calls a b) → f 0 a = f (n + 1) a)
    (hstep : ∀ n n' a, (∀ b, calls a b → f n b = f n' b) → f (n + 1) a = f (n' + 1) a)
    {n n' : Nat} {a : α} (hn : rank a ≤ n) (hn' : rank a ≤ n') : f n a = f n' a := by
  induction n generalizing n' a with
  | zero =>
      have hnone : ∀ b, ¬calls a b := by
        intro b hb
        have hlt := hrank a b hb
        omega
      cases n' with
      | zero => rfl
      | succ n' => exact hleaf n' a hnone
  | succ n ih =>
      cases n' with
      | zero =>
          have hnone : ∀ b, ¬calls a b := by
            intro b hb
            have hlt := hrank a b hb
            omega
          exact (hleaf n a hnone).symm
      | succ n' =>
          refine hstep n n' a fun b hb => ?_
          have hlt := hrank a b hb
          exact ih (by omega) (by omega)

/-- A relation with a rank that gets smaller has no endless descent. -/
theorem wellFounded_of_rank {α : Type} {r : α → α → Prop} (rank : α → Nat)
    (h : ∀ a b, r a b → rank a < rank b) : WellFounded r :=
  Subrelation.wf (fun {a b} hab => h a b hab) (InvImage.wf rank Nat.lt_wfRel.wf)

/-- What holds where something of its own is found, or where it holds of a call, holds exactly where
the calls lead to something of that kind. -/
theorem iff_exists_of_calls {α : Type} {calls : α → α → Prop}
    (hends : WellFounded fun b a => calls a b) {P own : α → Prop}
    (h : ∀ a, P a ↔ own a ∨ ∃ b, calls a b ∧ P b) (a : α) :
    P a ↔ ∃ b, ReflTransGen calls a b ∧ own b := by
  induction a using hends.induction with
  | h a ih =>
      rw [h]
      constructor
      · rintro (hown | ⟨b, hcall, hb⟩)
        · exact ⟨a, .refl, hown⟩
        · obtain ⟨c, hpath, hown⟩ := (ih b hcall).1 hb
          exact ⟨c, .head hcall hpath, hown⟩
      · rintro ⟨c, hpath, hown⟩
        rcases hpath.cases_head with rfl | ⟨b, hcall, hpath⟩
        · exact Or.inl hown
        · exact Or.inr ⟨b, hcall, (ih b hcall).2 ⟨c, hpath, hown⟩⟩

theorem mapM_congr_mem {α β ε : Type} {f g : α → Except ε β} {l : List α}
    (h : ∀ a ∈ l, f a = g a) : l.mapM f = l.mapM g := by
  induction l with
  | nil => rfl
  | cons a l ih =>
      rw [List.mapM_cons, List.mapM_cons, h a (List.mem_cons_self ..),
        ih fun b hb => h b (List.mem_cons_of_mem _ hb)]

namespace SymbolTable

variable {t : SymbolTable}

/-! ## Outwards -/

/-- The table has `outer` as the message around `inner`. -/
def Around (t : SymbolTable) (outer inner : Message) : Prop :=
  inner.parent.bind t.message? = some outer

/-- The walk from a message to those around it ends: the identifiers of the parents get shorter. -/
theorem Linked.wellFounded_around (h : t.Linked) : WellFounded t.Around := by
  refine wellFounded_of_rank (fun m => (m.parent.map fun id => id.length + 1).getD 0) ?_
  intro outer inner hstep
  obtain ⟨id, hid, houter⟩ := Option.bind_eq_some_iff.1 hstep
  cases hparent : outer.parent with
  | none => simp [hid]
  | some id' =>
      have hlt := (h.message id outer houter).parent id' hparent
      simpa [hid, hparent] using hlt

/-! ## Inwards -/

/-- The table has `inner` as a message nested in `outer`. -/
def Inside (t : SymbolTable) (inner outer : Message) : Prop :=
  inner ∈ outer.messages.filterMap t.message?

/-- The identifiers of messages that are longer than a number. -/
def longer (t : SymbolTable) (length : Nat) : Finset String :=
  t.messages.keys.toFinset.filter fun id => length < id.length

theorem mem_keys_iff {id : String} :
    id ∈ t.messages.keys.toFinset ↔ (t.message? id).isSome := by
  rw [List.mem_toFinset, Table.mem_keys]
  rfl

/-- How many messages can be below a message: those with longer identifiers, if the message is an
entry of the table. -/
def height (t : SymbolTable) (m : Message) : Nat :=
  if t.message? m.id = some m then (t.longer m.id.length).card else t.messages.size

theorem height_le (t : SymbolTable) (m : Message) : t.height m ≤ t.messages.size := by
  unfold height
  split
  · rw [← card_keys t]
    exact Finset.card_le_card (Finset.filter_subset _ _)
  · exact Nat.le_refl _

theorem Linked.height_lt (h : t.Linked) {inner outer : Message} (hstep : t.Inside inner outer) :
    t.height inner < t.height outer := by
  obtain ⟨id, hid, hinner⟩ := List.mem_filterMap.1 hstep
  obtain rfl : inner.id = id := (h.message id inner hinner).id
  have hkey : inner.id ∈ t.messages.keys.toFinset := by
    rw [mem_keys_iff, hinner, Option.isSome_some]
  have hnot : inner.id ∉ t.longer inner.id.length := by simp [longer]
  rw [height, if_pos hinner]
  unfold height
  split
  · -- both are entries, and the inner one counts below the outer one only
    rename_i houter
    have hlt := ((h.message _ outer houter).messages _ hid).2
    refine Finset.card_lt_card (Finset.ssubset_iff_of_subset ?_ |>.2 ⟨inner.id, ?_, hnot⟩)
    · intro k hk
      obtain ⟨hk, hlonger⟩ := Finset.mem_filter.1 hk
      exact Finset.mem_filter.2 ⟨hk, hlt.trans hlonger⟩
    · exact Finset.mem_filter.2 ⟨hkey, hlt⟩
  · rw [← card_keys t]
    exact Finset.card_lt_card
      (Finset.ssubset_iff_of_subset (Finset.filter_subset _ _) |>.2 ⟨inner.id, hkey, hnot⟩)

theorem Linked.wellFounded_inside (h : t.Linked) : WellFounded t.Inside :=
  wellFounded_of_rank t.height fun _ _ => h.height_lt

/-! ## Into maps -/

/-- The key and the value of the map entry that is the type of a field. -/
def mapParts (t : SymbolTable) (f : Field) : List Field :=
  match f.kind with
  | .message =>
      match (t.message? (f.typeId.getD "")).bind Message.mapFields? with
      | some (key, value) => [key, value]
      | none => []
  | _ => []

/-- The field is the key or the value of the map that `f` is. -/
def PartOf (t : SymbolTable) (part f : Field) : Prop :=
  part ∈ t.mapParts f

/-- The map entry `outer` has a key or a value of the type `inner`. -/
def Contains (t : SymbolTable) (outer inner : String) : Prop :=
  ∃ m key value, t.message? outer = some m ∧ m.mapFields? = some (key, value) ∧
    ∃ f ∈ [key, value], f.kind = .message ∧ f.typeId.getD "" = inner

/-- No map entry contains itself, be it through others. -/
def MapsEnd (t : SymbolTable) : Prop :=
  ∀ id, ¬TransGen t.Contains id id

theorem mem_mapParts {part f : Field} :
    part ∈ t.mapParts f ↔ f.kind = .message ∧ ∃ m key value,
      t.message? (f.typeId.getD "") = some m ∧ m.mapFields? = some (key, value) ∧
        part ∈ [key, value] := by
  unfold mapParts
  constructor
  · intro h
    split at h
    · rename_i hkind
      split at h
      · rename_i key value hentry
        obtain ⟨m, hm, hfields⟩ := Option.bind_eq_some_iff.1 hentry
        exact ⟨hkind, m, key, value, hm, hfields, h⟩
      · cases h
    · cases h
  · rintro ⟨hkind, m, key, value, hm, hfields, h⟩
    simpa [hkind, hm, hfields] using h

open scoped Classical in
/-- The number of map entries that the spelling of a field meets at most. -/
noncomputable def depth (t : SymbolTable) (f : Field) : Nat :=
  if f.kind = .message then
    (t.messages.keys.toFinset.filter fun id =>
      ReflTransGen t.Contains (f.typeId.getD "") id).card
  else 0

theorem depth_le (t : SymbolTable) (f : Field) : t.depth f ≤ t.messages.size := by
  classical
  unfold depth
  split
  · rw [← card_keys t]
    exact Finset.card_le_card (Finset.filter_subset _ _)
  · exact Nat.zero_le _

theorem MapsEnd.depth_lt (h : t.MapsEnd) {part f : Field} (hpart : t.PartOf part f) :
    t.depth part < t.depth f := by
  classical
  obtain ⟨hkind, m, key, value, hm, hfields, hmem⟩ := mem_mapParts.1 hpart
  have hkey : f.typeId.getD "" ∈ t.messages.keys.toFinset.filter fun id =>
      ReflTransGen t.Contains (f.typeId.getD "") id := by
    refine Finset.mem_filter.2 ⟨?_, ReflTransGen.refl⟩
    rw [mem_keys_iff, hm, Option.isSome_some]
  rw [depth, depth, if_pos hkind]
  split
  · rename_i hpartKind
    have hstep : t.Contains (f.typeId.getD "") (part.typeId.getD "") :=
      ⟨m, key, value, hm, hfields, part, hmem, hpartKind, rfl⟩
    refine Finset.card_lt_card (Finset.ssubset_iff_of_subset ?_ |>.2 ⟨_, hkey, ?_⟩)
    · intro id hid
      obtain ⟨hid, hpath⟩ := Finset.mem_filter.1 hid
      exact Finset.mem_filter.2 ⟨hid, ReflTransGen.head hstep hpath⟩
    · intro hback
      exact h _ (TransGen.head' hstep (Finset.mem_filter.1 hback).2)
  · exact Finset.card_pos.2 ⟨_, hkey⟩

/-- The walk into a map ends exactly when no map entry contains itself. -/
theorem wellFounded_partOf_iff : WellFounded t.PartOf ↔ t.MapsEnd := by
  constructor
  · intro hwf id hcycle
    -- a field of a type reaches a field of every type that the type contains
    have hreach : ∀ f : Field, f.kind = .message → ∀ inner,
        TransGen t.Contains (f.typeId.getD "") inner →
          ∃ part, TransGen t.PartOf part f ∧ part.kind = .message ∧
            part.typeId.getD "" = inner := by
      intro f hkind inner hpath
      induction hpath with
      | single hstep =>
          obtain ⟨m, key, value, hm, hfields, part, hmem, hpart, rfl⟩ := hstep
          exact ⟨part, .single (mem_mapParts.2 ⟨hkind, m, key, value, hm, hfields, hmem⟩), hpart,
            rfl⟩
      | tail _ hstep ih =>
          obtain ⟨g, hpath, hg, rfl⟩ := ih
          obtain ⟨m, key, value, hm, hfields, part, hmem, hpart, rfl⟩ := hstep
          exact ⟨part, .head (mem_mapParts.2 ⟨hg, m, key, value, hm, hfields, hmem⟩) hpath, hpart,
            rfl⟩
    have hnone : ∀ f : Field, ¬(f.kind = .message ∧ f.typeId.getD "" = id) := by
      intro f
      induction f using hwf.transGen.induction with
      | h f ih =>
          rintro ⟨hkind, rfl⟩
          obtain ⟨part, hpath, hpart, hid⟩ := hreach f hkind _ hcycle
          exact ih part hpath ⟨hpart, hid⟩
    exact hnone { kind := .message, typeId := some id } ⟨rfl, rfl⟩
  · intro h
    exact wellFounded_of_rank t.depth fun _ _ => h.depth_lt

end SymbolTable

/-! ## The bounds cut nothing off -/

section Equations

variable {t : SymbolTable}

/-- The record of a message is built from the records of those nested in it, however deep. -/
theorem Codec.messageView_eq (ht : t.Linked) (c : Codec) (m : Message) :
    c.messageView t m
      = ((nestedMessages t m).mapM (c.messageView t)).bind (c.messageViewWith t m) := by
  have hbound : c.messageViewWithin t t.messages.size m
      = c.messageViewWithin t (t.messages.size + 1) m := by
    refine eq_of_rank_le (fun outer inner => inner ∈ nestedMessages t outer) t.height
      ?_ ?_ ?_ (t.height_le m) (Nat.le_succ_of_le (t.height_le m))
    · intro outer inner hinner
      exact ht.height_lt (List.mem_of_mem_filter hinner)
    · intro n outer hnone
      have hnil : nestedMessages t outer = [] := List.eq_nil_iff_forall_not_mem.2 hnone
      rw [messageViewWithin, messageViewWithin, hnil]
      rfl
    · intro n n' outer hsame
      rw [messageViewWithin, messageViewWithin, mapM_congr_mem hsame]
  rw [messageView, hbound, messageViewWithin]
  rfl

namespace GoCodec

/-- A message uses the time package when it refers to it or one nested in it uses it. -/
theorem usesTimeWithin_eq (ht : t.Linked) (m : Message) :
    usesTimeWithin t t.messages.size m
      = (refersToTime t m ||
          (m.messages.filterMap t.message?).any (usesTimeWithin t t.messages.size)) := by
  have hbound : usesTimeWithin t t.messages.size m
      = usesTimeWithin t (t.messages.size + 1) m := by
    refine eq_of_rank_le (fun outer inner => t.Inside inner outer) t.height
      ?_ ?_ ?_ (t.height_le m) (Nat.le_succ_of_le (t.height_le m))
    · intro outer inner hinner
      exact ht.height_lt hinner
    · intro n outer hnone
      have hnil : outer.messages.filterMap t.message? = [] :=
        List.eq_nil_iff_forall_not_mem.2 hnone
      rw [usesTimeWithin, usesTimeWithin, hnil, List.any_nil, Bool.or_false]
    · intro n n' outer hsame
      have hany : (outer.messages.filterMap t.message?).any (usesTimeWithin t n)
          = (outer.messages.filterMap t.message?).any (usesTimeWithin t n') := by
        rw [Bool.eq_iff_iff, List.any_eq_true, List.any_eq_true]
        exact exists_congr fun inner => and_congr_right fun hinner => by rw [hsame inner hinner]
      rw [usesTimeWithin, usesTimeWithin, hany]
  rw [hbound, usesTimeWithin]

/-- What stands for a single element of a field, when the key and the value of a map are spelled in
a given way. -/
def elementWith (c : GoCodec) (t : SymbolTable) (spell : Field → String) (f : Field) : String :=
  match scalarType? f.kind with
  | some scalar => scalar
  | none =>
      match f.kind with
      | .message =>
          match t.message? (f.typeId.getD "") with
          | none => ""
          | some m =>
              match m.mapFields? with
              | some (key, value) => "map[" ++ spell key ++ "]" ++ spell value
              | none => if m.isMap then "" else "*" ++ c.messageName t m
      | .enum =>
          match t.enum? (f.typeId.getD "") with
          | some e => c.enumName t e
          | none => ""
      | _ => ""

theorem elementWith_congr (c : GoCodec) {spell spell' : Field → String} {f : Field}
    (h : ∀ part, t.PartOf part f → spell part = spell' part) :
    c.elementWith t spell f = c.elementWith t spell' f := by
  unfold elementWith
  cases hkind : f.kind with
  | message =>
      cases hm : t.message? (f.typeId.getD "") with
      | none => rfl
      | some m =>
          cases hfields : m.mapFields? with
          | none => simp [hfields]
          | some parts =>
              obtain ⟨key, value⟩ := parts
              have hpart : ∀ part ∈ [key, value], spell part = spell' part := fun part hmem =>
                h part (SymbolTable.mem_mapParts.2 ⟨hkind, m, key, value, hm, hfields, hmem⟩)
              simp [hfields, hpart key (by simp), hpart value (by simp)]
  | _ => rfl

theorem fieldTypeWithin_succ (c : GoCodec) (t : SymbolTable) (steps : Nat) (f : Field) :
    c.fieldTypeWithin t (steps + 1) f
      = sliceOf f (c.elementWith t (c.fieldTypeWithin t steps) f) := by
  rw [fieldTypeWithin, elementWith]
  cases hkind : f.kind with
  | message =>
      cases hm : t.message? (f.typeId.getD "") with
      | none => simp only [scalarType?, hm]
      | some m => cases hfields : m.mapFields? <;> simp only [scalarType?, hm, hfields]
  | _ => rfl

theorem fieldTypeWithin_zero (c : GoCodec) {f : Field} (h : ∀ part, ¬t.PartOf part f)
    (spell : Field → String) : c.fieldTypeWithin t 0 f = sliceOf f (c.elementWith t spell f) := by
  rw [fieldTypeWithin, elementWith]
  cases hkind : f.kind with
  | message =>
      cases hm : t.message? (f.typeId.getD "") with
      | none => simp only [scalarType?, hm]
      | some m =>
          cases hfields : m.mapFields? with
          | none => simp only [scalarType?, hm, hfields]
          | some parts =>
              obtain ⟨key, value⟩ := parts
              have hpart : t.PartOf key f := SymbolTable.mem_mapParts.2
                ⟨hkind, m, key, value, hm, hfields, List.mem_cons_self ..⟩
              exact absurd hpart (h key)
  | _ => rfl

/-- The type of a field is spelled from those of the key and the value, however many maps are one
inside the other. -/
theorem fieldType_eq (ht : t.MapsEnd) (c : GoCodec) (f : Field) :
    c.fieldType t f = sliceOf f (c.elementWith t (c.fieldType t) f) := by
  have hbound : c.fieldTypeWithin t t.messages.size f
      = c.fieldTypeWithin t (t.messages.size + 1) f := by
    refine eq_of_rank_le (fun f part => t.PartOf part f) t.depth ?_ ?_ ?_
      (t.depth_le f) (Nat.le_succ_of_le (t.depth_le f))
    · intro f part hpart
      exact ht.depth_lt hpart
    · intro n f hnone
      rw [fieldTypeWithin_succ]
      exact c.fieldTypeWithin_zero hnone _
    · intro n n' f hsame
      rw [fieldTypeWithin_succ, fieldTypeWithin_succ, c.elementWith_congr hsame]
  rw [fieldType, hbound, fieldTypeWithin_succ]
  rfl

/-! ## The search for the time package -/

/-- One round of the search: an answer, or the messages that are to be looked at then.  The message
looked at is the first one, and those nested in it come next. -/
def searchRound (t : SymbolTable) : List Message → Bool ⊕ List Message
  | [] => .inl false
  | m :: pending =>
      if refersToTime t m then .inl true
      else .inr ((m.messages.filterMap t.message?).reverse ++ pending)

/-- The search through some messages ends with an answer. -/
inductive Searches (t : SymbolTable) : List Message → Bool → Prop
  | answer {pending : List Message} {found : Bool} (h : searchRound t pending = .inl found) :
      Searches t pending found
  | round {pending next : List Message} {found : Bool} (h : searchRound t pending = .inr next)
      (hnext : Searches t next found) : Searches t pending found

/-- A round puts messages in the place of the one that they are nested in. -/
theorem cutExpand_of_searchRound {pending next : List Message}
    (h : searchRound t pending = .inr next) :
    Relation.CutExpand t.Inside (next : Multiset Message) (pending : Multiset Message) := by
  cases pending with
  | nil => cases h
  | cons m pending =>
      rw [searchRound] at h
      split at h
      · cases h
      · obtain rfl := Sum.inr.inj h
        refine ⟨(m.messages.filterMap t.message? : List Message), m, fun inner hinner => hinner, ?_⟩
        rw [← Multiset.coe_singleton, Multiset.coe_add, Multiset.coe_add, Multiset.coe_eq_coe]
        calc (m.messages.filterMap t.message?).reverse ++ pending ++ [m]
            |>.Perm (m :: ((m.messages.filterMap t.message?).reverse ++ pending)) :=
              List.perm_append_singleton ..
          _ |>.Perm (m :: (pending ++ (m.messages.filterMap t.message?).reverse)) :=
              List.perm_append_comm.cons m
          _ |>.Perm (m :: pending ++ m.messages.filterMap t.message?) :=
              (List.reverse_perm _).append_left (m :: pending)

/-- **The search cannot go on for ever**, whatever it starts from. -/
theorem wellFounded_searchRound (ht : t.Linked) :
    WellFounded fun next pending => searchRound t pending = .inr next :=
  Subrelation.wf (fun h => cutExpand_of_searchRound h)
    (InvImage.wf (fun pending : List Message => (pending : Multiset Message))
      ht.wellFounded_inside.cutExpand)

/-- The search finds out whether one of the messages uses the time package. -/
theorem searches_any (ht : t.Linked) (pending : List Message) :
    Searches t pending (pending.any (usesTimeWithin t t.messages.size)) := by
  induction pending using (wellFounded_searchRound ht).induction with
  | h pending ih =>
      cases pending with
      | nil => exact .answer rfl
      | cons m pending =>
          have hround : searchRound t (m :: pending) = if refersToTime t m then .inl true
              else .inr ((m.messages.filterMap t.message?).reverse ++ pending) := rfl
          rw [List.any_cons, usesTimeWithin_eq ht m]
          cases href : refersToTime t m with
          | true =>
              rw [href, if_pos rfl] at hround
              exact .answer hround
          | false =>
              rw [href, if_neg Bool.false_ne_true] at hround
              have hnext := ih _ hround
              rw [List.any_append, List.any_reverse] at hnext
              exact .round hround hnext

end GoCodec

end Equations

/-! ## The walks of an API -/

/-- Every walk through the table of an API ends, and what is computed within a bound is what the
walk without a bound computes. -/
structure Api.WalksEnd (api : Api) : Prop where
  around : WellFounded api.symbols.Around
  messageName : ∀ (c : GoCodec) (m : Message), c.messageName api.symbols m =
    match m.parent.bind api.symbols.message? with
    | some outer => c.messageName api.symbols outer ++ "_" ++ Naming.toPascalCase m.name
    | none => c.qualifier m.package ++ Naming.toPascalCase m.name
  enumName : ∀ (c : GoCodec) (e : Enum), c.enumName api.symbols e =
    match e.parent.bind api.symbols.message? with
    | some outer => c.messageName api.symbols outer ++ "_" ++ Naming.toPascalCase e.name
    | none => c.qualifier e.package ++ Naming.toPascalCase e.name
  inside : WellFounded api.symbols.Inside
  messageView : ∀ (c : Codec) (m : Message), c.messageView api.symbols m
    = ((Codec.nestedMessages api.symbols m).mapM (c.messageView api.symbols)).bind
        (c.messageViewWith api.symbols m)
  searchRound : WellFounded fun next pending =>
    GoCodec.searchRound api.symbols pending = .inr next
  usesTime : GoCodec.Searches api.symbols api.selectedMessages.reverse (GoCodec.usesTime api)
  partOf : WellFounded api.symbols.PartOf ↔ api.symbols.MapsEnd
  fieldType : api.symbols.MapsEnd → ∀ (c : GoCodec) (f : Field), c.fieldType api.symbols f
    = GoCodec.sliceOf f (c.elementWith api.symbols (c.fieldType api.symbols) f)

/-- **In a linked table all walks end.** -/
theorem Api.walksEnd_of_linked {api : Api} (h : api.symbols.Linked) : api.WalksEnd where
  around := h.wellFounded_around
  messageName c m := by
    cases hparent : m.parent.bind api.symbols.message? with
    | some outer => exact c.messageName_of_parent h.acyclic hparent
    | none => exact c.messageName_of_top hparent
  enumName c e := by
    cases hparent : e.parent.bind api.symbols.message? with
    | some outer => rw [GoCodec.enumName, hparent]
    | none =>
        rw [GoCodec.enumName, hparent]
        exact c.topLevelName_eq e.package e.name
  inside := h.wellFounded_inside
  messageView c m := c.messageView_eq h m
  searchRound := GoCodec.wellFounded_searchRound h
  usesTime := by
    have hsearch := GoCodec.searches_any h api.selectedMessages.reverse
    rwa [List.any_reverse] at hsearch
  partOf := SymbolTable.wellFounded_partOf_iff
  fieldType hmaps c f := c.fieldType_eq hmaps f

/-- **Every walk through the table of an API ends.**  Whatever files an API is compiled from, its
table is linked: entries stand under their own identifiers, what a message lists is there, and
identifiers get longer from the outside in.  So names, views and imports are computed in finitely
many steps, with the stand-ins for the time types and without them; the type of a field is, too,
unless a map entry contains itself. -/
theorem GoCodec.walksEnd_ofCompiled (config : Option ServiceConfig) (compiled : CompiledFiles) :
    ((Api.ofCompiled config compiled).symbols.Linked ∧
      (Api.ofCompiled config compiled).WalksEnd) ∧
    (withWellKnownTypes (Api.ofCompiled config compiled)).symbols.Linked ∧
      (withWellKnownTypes (Api.ofCompiled config compiled)).WalksEnd := by
  have hcompiled := Api.linked_ofCompiled config compiled
  have hstandIns := linked_withWellKnownTypes hcompiled
  exact ⟨⟨hcompiled, Api.walksEnd_of_linked hcompiled⟩, hstandIns,
    Api.walksEnd_of_linked hstandIns⟩

end ClientGen
