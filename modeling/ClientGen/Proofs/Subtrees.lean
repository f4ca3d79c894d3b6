import ClientGen.Proofs.Places

/-!
# Walks through a part of a file tree

A walk meets everything in a part of the tree once, and a directory before what is in it.

* `FileTree.mem_below`, `FileTree.below_ascending` — what is below a place, in the order of places.
* `FileTree.subtree_eq` — a stop with everything below it is the stop, and then what it lists with
  everything below that.
* `FileTree.Walks` — some stops are those of a walk that meets certain things.
* `FileTree.walks_of_start` — what a walk finds is such a list of stops.
* `FileTree.Walks.directory_before` — the directories on the way to a stop come before it.
-/

namespace ClientGen

/-! ## The order of places -/

namespace Place

/-- A common beginning makes no difference to the order. -/
theorem compare_append (front a b : Place) :
    compare (front ++ a) (front ++ b) = compare a b := by
  induction front with
  | nil => rfl
  | cons name front ih =>
      have hcons : compare (name :: (front ++ a)) (name :: (front ++ b))
          = (compare name name).then (compare (front ++ a) (front ++ b)) :=
        List.compareLex_cons_cons ..
      have hself : compare name name = .eq := Std.ReflCmp.compare_self
      rw [List.cons_append, List.cons_append, hcons, hself, ih]
      rfl

/-- A place comes before everything below it. -/
theorem compare_below (place : Place) (name : String) (rest : Place) :
    compare place (place ++ name :: rest) = .lt := by
  have happend := compare_append place [] (name :: rest)
  rw [List.append_nil] at happend
  rw [happend]
  exact List.compareLex_nil_cons

/-- Everything below a place comes before everything below a later sibling. -/
theorem compare_siblings {place a b : Place} {name name' : String}
    (h : compare (place ++ [name]) (place ++ [name']) = .lt) :
    compare (place ++ name :: a) (place ++ name' :: b) = .lt := by
  rw [compare_append] at h ⊢
  have hname : compare name name' = .lt := by
    have hcons : compare ([name] : Place) [name']
        = (compare name name').then (compare ([] : Place) []) := List.compareLex_cons_cons ..
    rw [hcons] at h
    cases horder : compare name name' with
    | lt => rfl
    | eq =>
        rw [horder] at h
        cases h
    | gt =>
        rw [horder] at h
        cases h
  have hcons : compare (name :: a) (name' :: b) = (compare name name').then (compare a b) :=
    List.compareLex_cons_cons ..
  rw [hcons, hname]
  rfl

theorem compare_ne_lt_self (place : Place) : compare place place ≠ .lt := by
  have hself : compare place place = .eq := Std.ReflCmp.compare_self
  rw [hself]
  exact nofun

end Place

namespace FileTree

open ClientGen.Path Place

variable {t u : FileTree} {directory root : Place} {path : String}

/-! ## Below a place -/

theorem mem_below {place : Place} {names : List String} {entry : Entry} :
    (names, entry) ∈ t.below place ↔
      names ≠ [] ∧ t.entries.get? (place ++ names) = some entry := by
  rw [below, List.mem_map]
  constructor
  · rintro ⟨⟨q, e⟩, hmem, heq⟩
    obtain ⟨hentry, hprefix⟩ := List.mem_filter.1 hmem
    obtain ⟨hq, hlength⟩ : place.isPrefixOf q = true ∧ q.length ≠ place.length := by
      simpa using hprefix
    obtain ⟨rest, rfl⟩ := List.isPrefixOf_iff_prefix.1 hq
    obtain ⟨rfl, rfl⟩ : rest = names ∧ e = entry := by simpa using heq
    exact ⟨fun hnil => hlength (by simp [hnil]), mem_entries_iff.1 hentry⟩
  · rintro ⟨hne, hget⟩
    refine ⟨(place ++ names, entry), List.mem_filter.2 ⟨mem_entries_iff.2 hget, ?_⟩, by simp⟩
    simpa using hne

/-- What is below a place comes in the order of the names on the way there. -/
theorem below_ascending (t : FileTree) (place : Place) :
    (t.below place).Pairwise fun a b => compare a.1 b.1 = .lt := by
  rw [below, List.pairwise_map]
  refine (t.entries.ascending.filter _).imp_of_mem ?_
  intro a b ha hb hab
  have hprefix : ∀ e ∈ t.entries.entries.filter
      (fun e => place.isPrefixOf e.1 && e.1.length != place.length),
      place ++ e.1.drop place.length = e.1 := by
    intro e he
    have hcondition := (List.mem_filter.1 he).2
    rw [Bool.and_eq_true] at hcondition
    obtain ⟨rest, hrest⟩ := List.isPrefixOf_iff_prefix.1 hcondition.1
    rw [← hrest, List.drop_left]
  rw [← compare_append place, hprefix a ha, hprefix b hb]
  exact hab

/-- No place is longer than the tree is deep. -/
theorem length_le_depth {place : Place} {entry : Entry} (h : t.at? place = some entry) :
    place.length ≤ t.depth := by
  have hbound : ∀ entries : List (Place × Entry), ∀ e ∈ entries,
      e.1.length ≤ entries.foldr (fun e depth => max e.1.length depth) 0 := by
    intro entries
    induction entries with
    | nil => exact nofun
    | cons first rest ih =>
        intro e he
        rw [List.foldr_cons]
        rcases List.mem_cons.1 he with rfl | he
        · exact Nat.le_max_left ..
        · exact (ih e he).trans (Nat.le_max_right ..)
  by_cases hnil : place = []
  · rw [hnil]
    exact Nat.zero_le _
  · rw [at?_of_ne_nil hnil] at h
    exact hbound _ _ (mem_entries_iff.2 h)

/-! ## Stops in the order of places -/

/-- The stop for what is found at the end of some names. -/
def Stop.under (path : String) (names : List String) (entry : Entry) : Stop :=
  ⟨names, joinAll path names, entry⟩

/-- A stop comes before another one. -/
def Stop.Precedes (a b : Stop) : Prop :=
  compare a.names b.names = .lt

theorem Stop.Precedes.trans {a b c : Stop} (h : a.Precedes b) (h' : b.Precedes c) :
    a.Precedes c :=
  Std.TransCmp.lt_trans h h'

theorem Stop.Precedes.names_ne {a b : Stop} (h : a.Precedes b) : a.names ≠ b.names := by
  intro heq
  rw [Precedes, heq] at h
  exact compare_ne_lt_self _ h

/-- Stops in order are given by their members. -/
theorem eq_of_ascending {stops stops' : List Stop} (h : stops.Pairwise Stop.Precedes)
    (h' : stops'.Pairwise Stop.Precedes) (hmem : ∀ stop, stop ∈ stops ↔ stop ∈ stops') :
    stops = stops' := by
  have hnodup : ∀ l : List Stop, l.Pairwise Stop.Precedes → l.Nodup := fun l hl =>
    hl.imp fun hab heq => hab.names_ne (congrArg Stop.names heq)
  refine ((List.perm_ext_iff_of_nodup (hnodup _ h) (hnodup _ h')).2 hmem).eq_of_pairwise ?_ h h'
  exact fun a b _ _ hab hba => absurd rfl (hab.trans hba).names_ne

@[simp]
theorem Stop.onward_nil (stop : Stop) : stop.onward [] stop.entry = stop := by
  rw [onward, List.append_nil]
  rfl

theorem Stop.onward_onward (stop : Stop) (name : String) (rest : List String)
    (entry entry' : Entry) :
    (stop.onward [name] entry).onward rest entry' = stop.onward (name :: rest) entry' := by
  rw [onward, onward, onward, List.append_assoc]
  rfl

/-! ## Subtrees -/

variable {stop s : Stop}

theorem mem_subtree (hstop : t.at? (root ++ stop.names) = some stop.entry) :
    s ∈ t.subtree root stop ↔
      ∃ names entry, t.at? (root ++ (stop.names ++ names)) = some entry ∧
        s = stop.onward names entry := by
  rw [subtree, List.mem_cons, List.mem_map]
  constructor
  · rintro (rfl | ⟨⟨names, entry⟩, hmem, rfl⟩)
    · exact ⟨[], s.entry, by rwa [List.append_nil], s.onward_nil.symm⟩
    · obtain ⟨hne, hget⟩ := mem_below.1 hmem
      refine ⟨names, entry, ?_, rfl⟩
      rwa [← List.append_assoc, at?_of_ne_nil (List.append_ne_nil_of_right_ne_nil _ hne)]
  · rintro ⟨names, entry, hat, rfl⟩
    by_cases hnil : names = []
    · subst hnil
      rw [List.append_nil, hstop] at hat
      rw [← Option.some.inj hat]
      exact Or.inl stop.onward_nil
    · rw [← List.append_assoc, at?_of_ne_nil (List.append_ne_nil_of_right_ne_nil _ hnil)] at hat
      exact Or.inr ⟨(names, entry), mem_below.2 ⟨hnil, hat⟩, rfl⟩

theorem mem_listing :
    s ∈ t.listing root stop ↔
      stop.entry = .directory ∧ ∃ name entry,
        t.at? (root ++ (stop.names ++ [name])) = some entry ∧ s = stop.onward [name] entry := by
  have hne : ∀ name, root ++ stop.names ++ [name] ≠ [] := fun name => List.concat_ne_nil name _
  unfold listing
  cases stop.entry with
  | file content => simp
  | directory =>
      simp only [List.mem_filterMap, Prod.exists, mem_below, Option.ite_none_right_eq_some,
        Option.some.injEq, true_and]
      constructor
      · rintro ⟨names, entry, ⟨-, hget⟩, hlength, rfl⟩
        obtain ⟨name, rfl⟩ := List.length_eq_one_iff.1 hlength
        exact ⟨name, entry, by rwa [← List.append_assoc, at?_of_ne_nil (hne name)], rfl⟩
      · rintro ⟨name, entry, hat, rfl⟩
        rw [← List.append_assoc, at?_of_ne_nil (hne name)] at hat
        exact ⟨[name], entry, ⟨List.cons_ne_nil _ _, hat⟩, rfl, rfl⟩

/-- A stop comes before everything below it, in the order of places. -/
theorem subtree_ascending (t : FileTree) (root : Place) (stop : Stop) :
    (t.subtree root stop).Pairwise Stop.Precedes := by
  refine List.pairwise_cons.2 ⟨fun s hs => ?_, ?_⟩
  · obtain ⟨⟨names, entry⟩, hmem, rfl⟩ := List.mem_map.1 hs
    obtain ⟨name, rest, rfl⟩ := List.exists_cons_of_ne_nil (mem_below.1 hmem).1
    exact compare_below stop.names name rest
  · refine List.pairwise_map.2 ((t.below_ascending (root ++ stop.names)).imp ?_)
    intro a b hab
    exact (compare_append stop.names a.1 b.1).trans hab

theorem exists_of_mem_subtree (h : s ∈ t.subtree root stop) :
    ∃ names entry, s = stop.onward names entry := by
  rcases List.mem_cons.1 h with rfl | h
  · exact ⟨[], s.entry, s.onward_nil.symm⟩
  · obtain ⟨⟨names, entry⟩, -, rfl⟩ := List.mem_map.1 h
    exact ⟨names, entry, rfl⟩

theorem listing_ascending (t : FileTree) (root : Place) (stop : Stop) :
    (t.listing root stop).Pairwise Stop.Precedes := by
  unfold listing
  split
  · exact .nil
  · refine List.Pairwise.filterMap _ ?_ (t.below_ascending (root ++ stop.names))
    rintro ⟨names, entry⟩ ⟨names', entry'⟩ hab s hs s' hs'
    obtain ⟨-, hs⟩ := Option.ite_none_right_eq_some.1 hs
    obtain ⟨-, hs'⟩ := Option.ite_none_right_eq_some.1 hs'
    obtain rfl := Option.some.inj hs
    obtain rfl := Option.some.inj hs'
    exact (compare_append stop.names names names').trans hab

/-- Trees that agree below a place list the same there. -/
theorem listing_congr (h : ∀ names, u.at? (root ++ names) = t.at? (root ++ names)) :
    u.listing root stop = t.listing root stop := by
  refine eq_of_ascending (u.listing_ascending root stop) (t.listing_ascending root stop) fun s => ?_
  simp only [mem_listing, h]

/-- What is listed, each with what is below it in whatever tree, is in the order of places. -/
theorem listing_flatMap_ascending (t u : FileTree) (root : Place) (stop : Stop) :
    (stop :: (t.listing root stop).flatMap (u.subtree root)).Pairwise Stop.Precedes := by
  refine List.pairwise_cons.2 ⟨fun s hs => ?_, ?_⟩
  · obtain ⟨child, hchild, hs⟩ := List.mem_flatMap.1 hs
    obtain ⟨-, name, entry, -, rfl⟩ := mem_listing.1 hchild
    obtain ⟨rest, entry', rfl⟩ := exists_of_mem_subtree hs
    rw [Stop.onward_onward]
    exact compare_below stop.names name rest
  · refine List.pairwise_flatMap.2 ⟨fun child _ => u.subtree_ascending root child, ?_⟩
    refine (t.listing_ascending root stop).imp_of_mem fun {a b} ha hb hab s hs s' hs' => ?_
    obtain ⟨-, name, entry, -, rfl⟩ := mem_listing.1 ha
    obtain ⟨-, name', entry', -, rfl⟩ := mem_listing.1 hb
    obtain ⟨rest, e, rfl⟩ := exists_of_mem_subtree hs
    obtain ⟨rest', e', rfl⟩ := exists_of_mem_subtree hs'
    rw [Stop.onward_onward, Stop.onward_onward]
    exact compare_siblings hab

/-- The first name of what is below a directory is listed there. -/
theorem WellFormed.at?_first (ht : t.WellFormed) {place : Place} {name : String}
    {rest : List String} {entry : Entry} (h : t.at? (place ++ name :: rest) = some entry) :
    ∃ entry', t.at? (place ++ [name]) = some entry' := by
  by_cases hnil : rest = []
  · exact ⟨entry, hnil ▸ h⟩
  · have hlong : t.at? ((place ++ [name]) ++ rest) = some entry := by rwa [List.append_assoc]
    exact ⟨.directory, ht.directory_of_append hlong hnil⟩

/-- **A stop with everything below it** is the stop, and then what is listed there, each with
everything below it. -/
theorem subtree_eq (ht : t.WellFormed) (hstop : t.at? (root ++ stop.names) = some stop.entry) :
    t.subtree root stop = stop :: (t.listing root stop).flatMap (t.subtree root) := by
  refine eq_of_ascending (t.subtree_ascending root stop)
    (t.listing_flatMap_ascending t root stop) fun s => ?_
  rw [mem_subtree hstop, List.mem_cons, List.mem_flatMap]
  constructor
  · rintro ⟨names, entry, hat, rfl⟩
    cases names with
    | nil =>
        rw [List.append_nil, hstop] at hat
        rw [← Option.some.inj hat]
        exact Or.inl stop.onward_nil
    | cons name rest =>
        have hlong : t.at? ((root ++ stop.names) ++ name :: rest) = some entry := by
          rwa [List.append_assoc]
        obtain ⟨entry', hname⟩ := ht.at?_first hlong
        have hdirectory := ht.directory_of_append hlong (List.cons_ne_nil _ _)
        rw [hstop] at hdirectory
        rw [List.append_assoc] at hname
        refine Or.inr ⟨stop.onward [name] entry',
          mem_listing.2 ⟨Option.some.inj hdirectory, name, entry', hname, rfl⟩, ?_⟩
        refine (mem_subtree hname).2 ⟨rest, entry, ?_, (stop.onward_onward ..).symm⟩
        rw [Stop.onward, List.append_assoc]
        exact hat
  · rintro (rfl | ⟨child, hchild, hs⟩)
    · exact ⟨[], s.entry, by rwa [List.append_nil], s.onward_nil.symm⟩
    · obtain ⟨-, name, entry, hname, rfl⟩ := mem_listing.1 hchild
      obtain ⟨rest, entry', hat, rfl⟩ := (mem_subtree hname).1 hs
      refine ⟨name :: rest, entry', ?_, stop.onward_onward ..⟩
      rw [Stop.onward, List.append_assoc] at hat
      exact hat

/-! ## The stops of a walk -/

/-- Some stops are those of a walk that meets certain things at the end of names: each thing once,
in the order of places.  What is met has a name and is in a directory that is met. -/
structure Walks (meets : List String → Option Entry) (path : String) (stops : List Stop) :
    Prop where
  mem : ∀ stop, stop ∈ stops ↔
    stop.path = joinAll path stop.names ∧ meets stop.names = some stop.entry
  ascending : stops.Pairwise Stop.Precedes
  isName : ∀ names entry, meets names = some entry → ∀ name ∈ names, IsName name
  directory : ∀ front rest entry, meets (front ++ rest) = some entry → rest ≠ [] →
    meets front = some .directory

/-- There is one such list of stops. -/
theorem Walks.unique {meets : List String → Option Entry} {stops stops' : List Stop}
    (h : Walks meets path stops) (h' : Walks meets path stops') : stops = stops' :=
  eq_of_ascending h.ascending h'.ascending fun stop => (h.mem stop).trans (h'.mem stop).symm

/-- A path leads to what is at its place, and to a directory if it says so. -/
theorem look_eq_ok_iff {entry : Entry} :
    t.look directory path = .ok entry ↔
      ∃ place, t.locate directory path = .ok place ∧ t.at? place = some entry ∧
        (promisesDirectory path = true → entry = .directory) := by
  unfold look
  cases t.locate directory path with
  | error fault => simp
  | ok place =>
      cases hat : t.at? place with
      | none => simp [hat]
      | some found =>
          cases found with
          | directory =>
              simp only [hat, Except.ok.injEq, exists_eq_left', Option.some.injEq]
              exact ⟨fun h => ⟨h, fun _ => h.symm⟩, And.left⟩
          | file content =>
              cases promisesDirectory path with
              | true =>
                  simp only [hat, reduceCtorEq, false_iff, exists_eq_left', Except.ok.injEq,
                    Option.some.injEq, if_true]
                  rintro ⟨rfl, hfile⟩
                  cases hfile trivial
              | false => simp [hat]

/-- **Where a walk starts**: at something that is there, and that is a directory if the path says
so. -/
theorem start_eq_ok_iff :
    t.start directory path = .ok (root, stop) ↔
      t.locate directory path = .ok root ∧ stop.names = [] ∧ stop.path = path ∧
        t.at? root = some stop.entry ∧
        (promisesDirectory path = true → stop.entry = .directory) := by
  unfold start
  constructor
  · intro h
    split at h
    · rename_i entry place hlook hlocate
      obtain ⟨place', hplace, hat, hpromises⟩ := look_eq_ok_iff.1 hlook
      obtain rfl : place = place' := Except.ok.inj (hlocate.symm.trans hplace)
      cases h
      exact ⟨hlocate, rfl, rfl, hat, hpromises⟩
    · cases h
    · cases h
  · rintro ⟨hlocate, hnames, hpath, hat, hpromises⟩
    obtain ⟨names, way, entry⟩ := stop
    rw [look_eq_ok_iff.2 ⟨root, hlocate, hat, hpromises⟩, hlocate]
    obtain rfl : names = [] := hnames
    obtain rfl : way = path := hpath
    rfl

theorem stops_eq_ok_iff {stops : List Stop} :
    t.stops directory path = .ok stops ↔
      ∃ root stop, t.start directory path = .ok (root, stop) ∧ stops = t.subtree root stop := by
  unfold FileTree.stops walk
  cases t.start directory path with
  | error fault => simp [Except.map]
  | ok found =>
      obtain ⟨root, stop⟩ := found
      simp only [Except.map, Except.ok.injEq, Prod.mk.injEq]
      constructor
      · rintro rfl
        exact ⟨root, stop, ⟨rfl, rfl⟩, rfl⟩
      · rintro ⟨root', stop', ⟨rfl, rfl⟩, rfl⟩
        rfl

/-- What is met on a walk through a tree that does not change. -/
theorem walks_of_start (ht : t.WellFormed) (h : t.start directory path = .ok (root, stop)) :
    Walks (fun names => t.at? (root ++ names)) path (t.subtree root stop) := by
  obtain ⟨-, hnames, hpath, hat, -⟩ := start_eq_ok_iff.1 h
  have hroot : t.at? (root ++ stop.names) = some stop.entry := by
    rwa [hnames, List.append_nil]
  refine ⟨fun s => ?mem, t.subtree_ascending root stop, ?isName, ?directory⟩
  case mem =>
    rw [mem_subtree hroot, hnames]
    constructor
    · rintro ⟨names, entry, hentry, rfl⟩
      rw [Stop.onward, hnames, hpath]
      exact ⟨rfl, hentry⟩
    · rintro ⟨hway, hentry⟩
      refine ⟨s.names, s.entry, hentry, ?_⟩
      rw [Stop.onward, hnames, hpath, ← hway]
      rfl
  case isName =>
    exact fun names entry hentry name hname =>
      ht.isName hentry name (List.mem_append_right _ hname)
  case directory =>
    intro front rest entry hentry hrest
    rw [← List.append_assoc] at hentry
    exact ht.directory_of_append hentry hrest

/-- The library depends on the files among the stops only. -/
theorem libraryOf_congr {stops stops' : List Stop} (h : stops.Pairwise Stop.Precedes)
    (h' : stops'.Pairwise Stop.Precedes)
    (hmem : ∀ stop content, stop.entry = .file content → (stop ∈ stops ↔ stop ∈ stops')) :
    libraryOf stops = libraryOf stops' := by
  have hfiles : ∀ l : List Stop, l.filterMap templateAt?
      = (l.filter fun stop => (templateAt? stop).isSome).filterMap templateAt? := by
    intro l
    rw [List.filterMap_filter]
    congr 1
    funext stop
    cases templateAt? stop <;> rfl
  have hsame : stops.filter (fun stop => (templateAt? stop).isSome)
      = stops'.filter fun stop => (templateAt? stop).isSome := by
    refine eq_of_ascending (h.filter _) (h'.filter _) fun stop => ?_
    rw [List.mem_filter, List.mem_filter]
    refine and_congr_left fun htemplate => ?_
    cases hentry : stop.entry with
    | file content => exact hmem stop content hentry
    | directory => simp [templateAt?, hentry] at htemplate
  rw [libraryOf, libraryOf, hfiles stops, hfiles stops', hsame]

namespace Walks

variable {meets : List String → Option Entry} {stops before after : List Stop} {stop : Stop}

/-- The stops before one are those with names that come before its names. -/
theorem mem_before_iff (h : Walks meets path (before ++ stop :: after)) {other : Stop}
    (hother : other ∈ before ++ stop :: after) :
    other ∈ before ↔ other.Precedes stop := by
  obtain ⟨-, hlater, hacross⟩ := List.pairwise_append.1 h.ascending
  constructor
  · exact fun hbefore => hacross other hbefore stop (List.mem_cons_self ..)
  · intro hlt
    rcases List.mem_append.1 hother with hbefore | hrest
    · exact hbefore
    · exfalso
      rcases List.mem_cons.1 hrest with rfl | hafter
      · exact hlt.names_ne rfl
      · exact (hlt.trans ((List.pairwise_cons.1 hlater).1 other hafter)).names_ne rfl

/-- Nothing is met twice. -/
theorem names_ne (h : Walks meets path (before ++ stop :: after)) {earlier : Stop}
    (hearlier : earlier ∈ before) : earlier.names ≠ stop.names :=
  ((h.mem_before_iff (List.mem_append_left _ hearlier)).1 hearlier).names_ne

/-- The walk starts at the start. -/
theorem eq_nil_of_names_nil (h : Walks meets path (before ++ stop :: after))
    (hnames : stop.names = []) : before = [] := by
  refine List.eq_nil_iff_forall_not_mem.2 fun earlier hearlier => ?_
  have hlt := (h.mem_before_iff (List.mem_append_left _ hearlier)).1 hearlier
  rw [Stop.Precedes, hnames] at hlt
  cases hlist : earlier.names with
  | nil => exact h.names_ne hearlier (hlist.trans hnames.symm)
  | cons name names =>
      rw [hlist] at hlt
      exact compare_ne_lt_self _ (Std.TransCmp.lt_trans hlt (compare_below [] name names))

/-- **A directory comes before what is in it.** -/
theorem directory_before (h : Walks meets path (before ++ stop :: after)) {front rest : List String}
    (hnames : stop.names = front ++ rest) (hrest : rest ≠ []) :
    Stop.under path front .directory ∈ before := by
  have hstop := ((h.mem stop).1 (List.mem_append_right _ (List.mem_cons_self ..))).2
  rw [hnames] at hstop
  have hmem : Stop.under path front .directory ∈ before ++ stop :: after :=
    (h.mem _).2 ⟨rfl, h.directory front rest _ hstop hrest⟩
  obtain ⟨name, rest, rfl⟩ := List.exists_cons_of_ne_nil hrest
  refine (h.mem_before_iff hmem).2 ?_
  rw [Stop.Precedes, hnames]
  exact compare_below front name rest

end Walks

end FileTree

end ClientGen
