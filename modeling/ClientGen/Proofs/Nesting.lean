import ClientGen.Proofs.Emission
import ClientGen.Proofs.Walks

/-!
# Records within records

The record of a message has those of the messages nested in it, map entries left out.  As long as
the nesting comes to an end, the bound on its depth plays no role, and a view has one record for
each message that the selected ones lead to.

* `SymbolTable.NestingEnds` — no message has its record inside its own.  Then what is computed along
  the nesting satisfies the equation of the recursion (`SymbolTable.foldNested_eq`).
* `Api.ShowsMessage` — what the selected messages lead to.
* `Codec.mem_messageRecords_iff` — the records in a view are those of the messages that are shown.
-/

namespace ClientGen

open Relation (TransGen ReflTransGen)

/-! ## Nesting that ends -/

namespace SymbolTable

variable {t : SymbolTable} {β γ : Type}

/-- The message `inner` has its record inside that of `outer`. -/
def Nests (t : SymbolTable) (outer inner : Message) : Prop :=
  inner ∈ Codec.nestedMessages t outer

/-- No message has its record inside its own, be it at some depth. -/
def NestingEnds (t : SymbolTable) : Prop :=
  ∀ m, ¬TransGen t.Nests m m

theorem Linked.nestingEnds (h : t.Linked) : t.NestingEnds := by
  have hheight : ∀ outer inner, TransGen t.Nests outer inner → t.height inner < t.height outer := by
    intro outer inner hpath
    induction hpath with
    | single hstep => exact h.height_lt (List.mem_of_mem_filter hstep)
    | tail _ hstep ih => exact (h.height_lt (List.mem_of_mem_filter hstep)).trans ih
  intro m hm
  exact Nat.lt_irrefl _ (hheight m m hm)

open scoped Classical in
/-- The identifiers of the messages nested in a message at some depth. -/
noncomputable def below (t : SymbolTable) (m : Message) : Finset String :=
  t.messages.keys.toFinset.filter fun id => ∃ inner, t.message? id = some inner ∧
    TransGen t.Nests m inner

theorem card_below_le (t : SymbolTable) (m : Message) :
    (t.below m).card ≤ t.messages.size := by
  classical
  rw [← card_keys t]
  exact Finset.card_le_card (Finset.filter_subset _ _)

theorem NestingEnds.card_lt (h : t.NestingEnds) {outer inner : Message}
    (hstep : t.Nests outer inner) : (t.below inner).card < (t.below outer).card := by
  classical
  obtain ⟨id, -, hid⟩ := List.mem_filterMap.1 (List.mem_of_mem_filter hstep)
  have hkey : id ∈ t.messages.keys.toFinset := mem_keys_iff.2 (by simp [hid])
  refine Finset.card_lt_card (Finset.ssubset_iff_of_subset ?_ |>.2 ⟨id, ?_, ?_⟩)
  · intro k hk
    obtain ⟨hk, m, hm, hpath⟩ := Finset.mem_filter.1 hk
    exact Finset.mem_filter.2 ⟨hk, m, hm, .head hstep hpath⟩
  · exact Finset.mem_filter.2 ⟨hkey, inner, hid, .single hstep⟩
  · intro hself
    obtain ⟨-, m, hm, hpath⟩ := Finset.mem_filter.1 hself
    obtain rfl : inner = m := Option.some.inj (hid.symm.trans hm)
    exact h inner hpath

theorem NestingEnds.wellFounded (h : t.NestingEnds) :
    WellFounded fun inner outer => t.Nests outer inner :=
  wellFounded_of_rank (fun m => (t.below m).card) fun _ _ => h.card_lt

/-- The number of messages is depth enough: what is computed along the nesting satisfies the
equation of the recursion. -/
theorem foldNested_eq (h : t.NestingEnds) (f : Message → List β → β) (m : Message) :
    t.foldNested f m = f m ((Codec.nestedMessages t m).map (t.foldNested f)) := by
  have hbound : t.foldNestedWithin f t.messages.size m
      = t.foldNestedWithin f (t.messages.size + 1) m := by
    refine eq_of_rank_le t.Nests (fun m => (t.below m).card) (fun _ _ => h.card_lt) ?_ ?_
      (t.card_below_le m) (Nat.le_succ_of_le (t.card_below_le m))
    · intro n outer hnone
      have hnil : Codec.nestedMessages t outer = [] := List.eq_nil_iff_forall_not_mem.2 hnone
      simp [foldNestedWithin, hnil]
    · intro n n' outer hsame
      simp only [foldNestedWithin]
      rw [List.map_congr_left hsame]
  exact hbound

/-- A result that is changed afterwards may be changed at each message. -/
theorem map_foldNested (g : β → γ) {f : Message → List β → β} {f' : Message → List γ → γ}
    (h : ∀ m nested, g (f m nested) = f' m (nested.map g)) (m : Message) :
    g (t.foldNested f m) = t.foldNested f' m := by
  unfold foldNested
  generalize t.messages.size = levels
  induction levels generalizing m with
  | zero => exact h m []
  | succ levels ih => simp [foldNestedWithin, h, Function.comp_def, ih]

end SymbolTable

/-! ## The records in a view -/

/-- The message is selected or nested in a selected one, with no map entry on the way. -/
def Api.ShowsMessage (api : Api) (m : Message) : Prop :=
  ∃ top ∈ api.selectedMessages,
    ReflTransGen (fun outer inner => inner ∈ Codec.nestedMessages api.symbols outer) top m

namespace Codec

variable {c : Codec} {t : SymbolTable}

/-- The record of a message is made from those of the messages nested in it. -/
theorem messageRecord_eq (h : t.NestingEnds) (types : OneOf → Option String) (m : Message) :
    c.messageRecord t types m
      = c.messageRecordWith t types m
          ((nestedMessages t m).map (c.messageRecord t types)) :=
  SymbolTable.foldNested_eq h _ m

/-- Each record within the record of a message is that of a message nested in it. -/
theorem mem_preorder_messageRecord (h : t.NestingEnds) {types : OneOf → Option String} {m : Message}
    {record : MessageView} :
    record ∈ (c.messageRecord t types m).preorder ↔
      ∃ inner, ReflTransGen t.Nests m inner ∧ record = c.messageRecord t types inner := by
  refine iff_exists_of_calls (P := fun m => record ∈ (c.messageRecord t types m).preorder)
    h.wellFounded (fun m => ?_) m
  have hnested : (c.messageRecord t types m).messages
      = (nestedMessages t m).map (c.messageRecord t types) := by
    rw [messageRecord_eq h]
    rfl
  rw [MessageView.preorder_eq, List.mem_cons, hnested, List.flatMap_map, List.mem_flatMap]
  rfl

/-- **A view has a record for every message that is shown**, and for no other. -/
theorem mem_messageRecords_iff {api : Api} (h : api.symbols.NestingEnds) {view : ApiView}
    (hview : c.apiView api = .ok view) {record : MessageView} :
    record ∈ view.messageRecords ↔ ∃ m, api.ShowsMessage m ∧
      record = c.messageRecord api.symbols (c.namedType api.symbols) m := by
  rw [apiView_eq_unlessRefused] at hview
  obtain ⟨rfl, -⟩ := unlessRefused_eq_ok hview
  simp only [ApiView.messageRecords, apiRecord, List.flatMap_map, List.mem_flatMap,
    mem_preorder_messageRecord h]
  constructor
  · rintro ⟨top, htop, m, hpath, rfl⟩
    exact ⟨m, ⟨top, htop, hpath⟩, rfl⟩
  · rintro ⟨m, ⟨top, htop, hpath⟩, rfl⟩
    exact ⟨top, htop, m, hpath, rfl⟩

end Codec

end ClientGen
