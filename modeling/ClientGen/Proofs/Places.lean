import ClientGen.Proofs.PathNames
import ClientGen.Proofs.SymbolTable
import Mathlib.Data.List.Infix

/-!
# Places in a file tree, and what becomes of them

* `FileTree.WellFormed` — places are made of names, and everything is in a directory.
* `Place.stages`, `Place.destination` — where the parts of a path lead, step by step.
* `FileTree.follow_eq_ok_iff`, `FileTree.createAlong_ok` — a path is followed through directories
  that are there, and created through directories that are there or missing.
* `FileTree.createAlong_error` — what is left of a path that cannot be created.
* `FileTree.Differs` — one tree is another one with something made in it.  Differences add up
  (`FileTree.Differs.trans`).
-/

namespace ClientGen

open ClientGen.Path

/-! ## Stages of a path -/

namespace Place

/-- The places that the parts of a path lead to one after the other.  A dot leads nowhere else, and
two dots lead back. -/
def stages : Place → List String → List Place
  | _, [] => []
  | place, part :: rest =>
      if part = "." then stages place rest
      else if part = ".." then stages place.dropLast rest
      else (place ++ [part]) :: stages (place ++ [part]) rest

/-- The place that the parts of a path lead to in the end. -/
def destination : Place → List String → Place
  | place, [] => place
  | place, part :: rest =>
      if part = "." then destination place rest
      else if part = ".." then destination place.dropLast rest
      else destination (place ++ [part]) rest

theorem stages_name (place : Place) {part : String} (hdot : part ≠ ".") (hdots : part ≠ "..")
    (rest : List String) :
    stages place (part :: rest) = (place ++ [part]) :: stages (place ++ [part]) rest := by
  rw [stages, if_neg hdot, if_neg hdots]

theorem destination_name (place : Place) {part : String} (hdot : part ≠ ".") (hdots : part ≠ "..")
    (rest : List String) :
    destination place (part :: rest) = destination (place ++ [part]) rest := by
  rw [destination, if_neg hdot, if_neg hdots]

/-- One name has one stage. -/
theorem stages_singleton (place : Place) {name : String} (h : IsName name) :
    stages place [name] = [place ++ [name]] :=
  stages_name place h.ne_dot h.ne_dots []

theorem stages_append (place : Place) (before after : List String) :
    stages place (before ++ after)
      = stages place before ++ stages (destination place before) after := by
  induction place, before using stages.induct with
  | case1 place => rfl
  | case2 place rest ih => exact ih
  | case3 place rest _ ih => exact ih
  | case4 place part rest hdot hdots ih =>
      rw [List.cons_append, stages_name place hdot hdots, stages_name place hdot hdots,
        destination_name place hdot hdots, ih, List.cons_append]

theorem destination_append (place : Place) (before after : List String) :
    destination place (before ++ after) = destination (destination place before) after := by
  induction place, before using stages.induct with
  | case1 place => rfl
  | case2 place rest ih => exact ih
  | case3 place rest _ ih => exact ih
  | case4 place part rest hdot hdots ih =>
      rw [List.cons_append, destination_name place hdot hdots, ih,
        destination_name place hdot hdots]

/-- Names lead further down. -/
theorem destination_names (place : Place) {names : List String} (h : ∀ n ∈ names, IsName n) :
    destination place names = place ++ names := by
  induction names generalizing place with
  | nil => exact (List.append_nil _).symm
  | cons n names ih =>
      have hn := h n (List.mem_cons_self ..)
      rw [destination_name place hn.ne_dot hn.ne_dots,
        ih (place ++ [n]) fun m hm => h m (List.mem_cons_of_mem _ hm), List.append_assoc,
        List.singleton_append]

/-- The stages of names are the beginnings of the way. -/
theorem mem_stages_names {place stage : Place} {names : List String} (h : ∀ n ∈ names, IsName n) :
    stage ∈ stages place names ↔
      ∃ front n rest, names = front ++ n :: rest ∧ stage = place ++ (front ++ [n]) := by
  induction names using List.reverseRecOn with
  | nil => simp [stages]
  | append_singleton names last ih =>
      have hnames : ∀ n ∈ names, IsName n := fun n hn => h n (List.mem_append_left _ hn)
      have hlast : IsName last := h last (List.mem_append_right _ (List.mem_singleton_self last))
      rw [stages_append, destination_names place hnames, stages_singleton _ hlast,
        List.mem_append, ih hnames, List.mem_singleton]
      constructor
      · rintro (⟨front, n, rest, rfl, rfl⟩ | rfl)
        · exact ⟨front, n, rest ++ [last], by simp, rfl⟩
        · exact ⟨names, last, [], rfl, List.append_assoc ..⟩
      · rintro ⟨front, n, rest, hsplit, rfl⟩
        cases rest using List.reverseRecOn with
        | nil =>
            obtain ⟨rfl, hn⟩ := List.append_inj' hsplit rfl
            obtain rfl : last = n := by simpa using hn
            exact Or.inr (List.append_assoc ..).symm
        | append_singleton rest last' =>
            have hsplit' : names ++ [last] = (front ++ n :: rest) ++ [last'] := by
              simpa using hsplit
            obtain ⟨rfl, -⟩ := List.append_inj' hsplit' rfl
            exact Or.inl ⟨front, n, rest, rfl, rfl⟩

/-- The stages of a path end in names. -/
theorem isName_of_mem_stages {place front : Place} {name : String} {parts : List String}
    (hparts : ∀ p ∈ parts, IsPart p) (h : front ++ [name] ∈ stages place parts) : IsName name := by
  induction place, parts using stages.induct with
  | case1 place => cases h
  | case2 place rest ih => exact ih (fun p hp => hparts p (List.mem_cons_of_mem _ hp)) h
  | case3 place rest _ ih => exact ih (fun p hp => hparts p (List.mem_cons_of_mem _ hp)) h
  | case4 place part rest hdot hdots ih =>
      rw [stages_name place hdot hdots] at h
      rcases List.mem_cons.1 h with heq | h
      · rw [List.singleton_inj.1 (List.append_inj' heq rfl).2]
        exact ⟨hparts part (List.mem_cons_self ..), hdot, hdots⟩
      · exact ih (fun p hp => hparts p (List.mem_cons_of_mem _ hp)) h

/-- Each part leads at most one step further down. -/
theorem length_le_of_mem_stages {place stage : Place} {parts : List String}
    (h : stage ∈ stages place parts) : stage.length ≤ place.length + parts.length := by
  induction place, parts using stages.induct with
  | case1 place => cases h
  | case2 place rest ih => exact (ih h).trans (Nat.add_le_add_left (Nat.le_succ _) _)
  | case3 place rest _ ih =>
      have hlength : place.dropLast.length = place.length - 1 := List.length_dropLast
      have hrest := ih h
      rw [List.length_cons]
      omega
  | case4 place part rest hdot hdots ih =>
      rw [stages_name place hdot hdots] at h
      rcases List.mem_cons.1 h with rfl | h
      · simp
      · have hrest := ih h
        rw [List.length_append, List.length_singleton] at hrest
        rw [List.length_cons]
        omega

end Place

namespace FileTree

open Place

variable {t u v : FileTree}

/-! ## Looking at places -/

theorem at?_of_ne_nil {place : Place} (h : place ≠ []) : t.at? place = t.entries.get? place :=
  if_neg h

theorem at?_put {place : Place} (h : place ≠ []) (entry : Entry) (q : Place) :
    (t.put place entry).at? q = if q = place then some entry else t.at? q := by
  by_cases hq : q = []
  · subst hq
    rw [if_neg (Ne.symm h)]
    rfl
  · rw [at?_of_ne_nil hq, at?_of_ne_nil hq, put, Table.get?_insert']

/-- To put something where it is changes nothing. -/
theorem put_eq_self {place : Place} {entry : Entry} (hne : place ≠ [])
    (h : t.at? place = some entry) : t.put place entry = t := by
  rw [at?_of_ne_nil hne] at h
  have hentries : t.entries.insert place entry = t.entries := by
    refine Table.ext_get? fun q => ?_
    rw [Table.get?_insert']
    split
    · rename_i hq
      rw [hq, h]
    · rfl
  rw [put, hentries]

/-! ## Following a path -/

/-- A name that is not the last part leads through a directory. -/
theorem follow_name (t : FileTree) (place : Place) {part : String} (hdot : part ≠ ".")
    (hdots : part ≠ "..") (next : String) (rest : List String) :
    t.follow place (part :: next :: rest) =
      match t.at? (place ++ [part]) with
      | some .directory => t.follow (place ++ [part]) (next :: rest)
      | some (.file _) => .error .notADirectory
      | none => .error .notFound := by
  conv_lhs => unfold follow
  rw [if_neg hdot, if_neg hdots]
  cases t.at? (place ++ [part]) with
  | none => rfl
  | some entry => cases entry <;> rfl

/-- **A path is followed through directories**: all stages but the last one have to be there. -/
theorem follow_eq_ok_iff {place q : Place} {parts : List String} :
    t.follow place parts = .ok q ↔
      (∀ stage ∈ stages place parts.dropLast, t.at? stage = some .directory) ∧
        q = destination place parts := by
  induction place, parts using stages.induct with
  | case1 place => simp [follow, stages, destination, eq_comm]
  | case2 place rest ih => cases rest <;> exact ih
  | case3 place rest _ ih => cases rest <;> exact ih
  | case4 place part rest hdot hdots ih =>
      cases rest with
      | nil => simp [follow, stages, destination, hdot, hdots, eq_comm]
      | cons next rest =>
          rw [follow_name t place hdot hdots, List.dropLast_cons_cons,
            stages_name place hdot hdots, destination_name place hdot hdots]
          cases hat : t.at? (place ++ [part]) with
          | none => simp [hat]
          | some entry =>
              cases entry with
              | file content => simp [hat]
              | directory => simp [hat, ih]

/-! ## Differences -/

/-- `u` is `t` with something made at some places.  What was at such a place stays what it was, a
directory or a file, and everything else is as before. -/
structure Differs (t u : FileTree) (made : Place → Entry → Prop) : Prop where
  refuses : u.refuses = t.refuses
  holds : ∀ place entry, made place entry → u.at? place = some entry
  kept : ∀ place, (∀ entry, ¬made place entry) → u.at? place = t.at? place
  fits : ∀ place entry, made place entry → ∀ old, t.at? place = some old →
    (old = .directory ↔ entry = .directory)

theorem Differs.refl (t : FileTree) : t.Differs t fun _ _ => False :=
  ⟨rfl, fun _ _ h => h.elim, fun _ _ => rfl, fun _ _ h => h.elim⟩

/-- A directory stays one. -/
theorem Differs.directory {made : Place → Entry → Prop} (h : t.Differs u made) {place : Place}
    (hplace : t.at? place = some .directory) : u.at? place = some .directory := by
  by_cases hmade : ∃ entry, made place entry
  · obtain ⟨entry, hentry⟩ := hmade
    have hdirectory := (h.fits place entry hentry .directory hplace).1 rfl
    rw [h.holds place entry hentry, hdirectory]
  · rw [h.kept place (not_exists.1 hmade), hplace]

/-- A difference may leave out what was there before, and name what is there anyway. -/
theorem Differs.congr {made made' : Place → Entry → Prop} (h : t.Differs u made)
    (hmade : ∀ place entry, made' place entry → u.at? place = some entry)
    (hrest : ∀ place entry, made place entry → made' place entry ∨ t.at? place = some entry) :
    t.Differs u made' := by
  refine ⟨h.refuses, hmade, fun place hplace => ?_, fun place entry hentry old hold => ?_⟩
  · by_cases hold : ∃ entry, made place entry
    · obtain ⟨entry, hentry⟩ := hold
      have hbefore := (hrest place entry hentry).resolve_left (hplace entry)
      rw [h.holds place entry hentry, hbefore]
    · exact h.kept place (not_exists.1 hold)
  · have hnow := hmade place entry hentry
    by_cases hother : ∃ other, made place other
    · obtain ⟨other, hother⟩ := hother
      obtain rfl : other = entry := Option.some.inj ((h.holds place other hother).symm.trans hnow)
      exact h.fits place other hother old hold
    · rw [h.kept place (not_exists.1 hother), hold] at hnow
      rw [Option.some.inj hnow]

/-- **Differences add up**, as long as no file is made twice. -/
theorem Differs.trans {made made' : Place → Entry → Prop} (h : t.Differs u made)
    (h' : u.Differs v made')
    (hfiles : ∀ place content content', made place (.file content) →
      ¬made' place (.file content')) :
    t.Differs v fun place entry => made place entry ∨ made' place entry := by
  have hearlier : ∀ place entry, made place entry → v.at? place = some entry := by
    intro place entry hentry
    have hthen := h.holds place entry hentry
    by_cases hlater : ∃ entry', made' place entry'
    · obtain ⟨entry', hentry'⟩ := hlater
      have hkind := h'.fits place entry' hentry' entry hthen
      rw [h'.holds place entry' hentry']
      cases entry with
      | directory => rw [hkind.1 rfl]
      | file content =>
          cases entry' with
          | directory => exact absurd (hkind.2 rfl) (by simp)
          | file content' => exact absurd hentry' (hfiles place content content' hentry)
    · rw [h'.kept place (not_exists.1 hlater), hthen]
  refine ⟨h'.refuses.trans h.refuses, ?holds, ?kept, ?fits⟩
  case holds =>
    rintro place entry (hentry | hentry)
    · exact hearlier place entry hentry
    · exact h'.holds place entry hentry
  case kept =>
    intro place hplace
    rw [h'.kept place fun entry hentry => hplace entry (Or.inr hentry),
      h.kept place fun entry hentry => hplace entry (Or.inl hentry)]
  case fits =>
    rintro place entry (hentry | hentry) old hold
    · exact h.fits place entry hentry old hold
    · by_cases hbefore : ∃ entry', made place entry'
      · obtain ⟨entry', hentry'⟩ := hbefore
        have hkind := h.fits place entry' hentry' old hold
        exact hkind.trans (h'.fits place entry hentry entry' (h.holds place entry' hentry'))
      · have hthen := h.kept place (not_exists.1 hbefore)
        exact h'.fits place entry hentry old (hthen.trans hold)

/-- One thing put at a place. -/
theorem differs_put {place : Place} {entry : Entry} (hne : place ≠ [])
    (hfits : ∀ old, t.at? place = some old → (old = .directory ↔ entry = .directory)) :
    t.Differs (t.put place entry) fun q e => q = place ∧ e = entry := by
  refine ⟨rfl, ?_, fun q hq => ?_, ?_⟩
  · rintro q e ⟨rfl, rfl⟩
    rw [at?_put hne, if_pos rfl]
  · rw [at?_put hne, if_neg fun he => hq entry ⟨he, rfl⟩]
  · rintro q e ⟨rfl, rfl⟩
    exact hfits

/-! ## Creating directories -/

theorem createDirectoryAt_ok {place : Place} (h : t.createDirectoryAt place = .ok u) :
    t.at? place = none ∧ u = t.put place .directory := by
  unfold createDirectoryAt at h
  split at h
  · cases h
  · rename_i hnone
    split at h
    · cases h
    · exact ⟨hnone, (Except.ok.inj h).symm⟩

/-- A name is created in a place, unless it is a directory already. -/
theorem createAlong_name (t : FileTree) (place : Place) {part : String} (hdot : part ≠ ".")
    (hdots : part ≠ "..") (rest : List String) :
    t.createAlong place (part :: rest) =
      match t.at? (place ++ [part]) with
      | some .directory => t.createAlong (place ++ [part]) rest
      | some (.file _) => (.error .notADirectory, t)
      | none =>
          match t.createDirectoryAt (place ++ [part]) with
          | .error fault => (.error fault, t)
          | .ok t => t.createAlong (place ++ [part]) rest := by
  conv_lhs => unfold createAlong
  exact (if_neg hdot).trans (if_neg hdots)

/-- A single directory that cannot be created changes nothing. -/
theorem createAlong_singleton_error {place : Place} {name : String} {fault : FileFault}
    (hname : IsName name) (h : t.createAlong place [name] = (.error fault, u)) : u = t := by
  rw [createAlong_name t place hname.ne_dot hname.ne_dots] at h
  split at h
  · rw [createAlong] at h
    cases h
  · exact (Prod.mk.inj h).2.symm
  · split at h
    · exact (Prod.mk.inj h).2.symm
    · rw [createAlong] at h
      cases h

/-- Where all directories are there, nothing is created. -/
theorem createAlong_append {place : Place} {before : List String}
    (h : ∀ stage ∈ stages place before, t.at? stage = some .directory) (after : List String) :
    t.createAlong place (before ++ after) = t.createAlong (destination place before) after := by
  induction place, before using stages.induct with
  | case1 place => rfl
  | case2 place rest ih => exact ih h
  | case3 place rest _ ih => exact ih h
  | case4 place part rest hdot hdots ih =>
      rw [stages_name place hdot hdots] at h
      have hplace := h _ (List.mem_cons_self ..)
      rw [List.cons_append, createAlong_name t place hdot hdots, hplace,
        destination_name place hdot hdots]
      exact ih fun stage hstage => h stage (List.mem_cons_of_mem _ hstage)

theorem createAlong_eq_self {place : Place} {parts : List String}
    (h : ∀ stage ∈ stages place parts, t.at? stage = some .directory) :
    t.createAlong place parts = (.ok (), t) := by
  have happend := createAlong_append h []
  rwa [List.append_nil, createAlong] at happend

/-- A directory that is there may be counted among those that are made. -/
theorem Differs.directory_there {place : Place} {made : List Place}
    (hat : t.at? place = some .directory)
    (h : t.Differs u fun q entry => q ∈ made ∧ entry = .directory) :
    t.Differs u fun q entry => q ∈ place :: made ∧ entry = .directory := by
  refine h.congr ?_ fun q entry hq => Or.inl ⟨List.mem_cons_of_mem _ hq.1, hq.2⟩
  rintro q entry ⟨hq, rfl⟩
  rcases List.mem_cons.1 hq with rfl | hq
  · exact h.directory hat
  · exact h.holds q _ ⟨hq, rfl⟩

/-- A directory is made where nothing is, and others after it. -/
theorem Differs.directory_first {place : Place} {made : List Place} (hne : place ≠ [])
    (hat : t.at? place = none)
    (h : (t.put place .directory).Differs u fun q entry => q ∈ made ∧ entry = .directory) :
    t.Differs u fun q entry => q ∈ place :: made ∧ entry = .directory := by
  have hfits : ∀ old, t.at? place = some old →
      (old = .directory ↔ Entry.directory = .directory) := by
    rw [hat]
    exact fun _ hold => nomatch hold
  have hboth := (differs_put hne hfits).trans h fun q content content' hq => by cases hq.2
  refine hboth.congr ?_ ?_
  · rintro q entry ⟨hq, rfl⟩
    refine hboth.holds q _ ?_
    rcases List.mem_cons.1 hq with rfl | hq
    · exact Or.inl ⟨rfl, rfl⟩
    · exact Or.inr ⟨hq, rfl⟩
  · rintro q entry (⟨rfl, rfl⟩ | ⟨hq, rfl⟩)
    · exact Or.inl ⟨List.mem_cons_self .., rfl⟩
    · exact Or.inl ⟨List.mem_cons_of_mem _ hq, rfl⟩

/-- Where directories are made, everything that was there is still there. -/
theorem Differs.at?_of_directories {made : List Place}
    (h : t.Differs u fun q entry => q ∈ made ∧ entry = .directory) {place : Place} {entry : Entry}
    (hat : t.at? place = some entry) : u.at? place = some entry := by
  by_cases hmade : place ∈ made
  · rw [h.holds place _ ⟨hmade, rfl⟩, (h.fits place _ ⟨hmade, rfl⟩ entry hat).2 rfl]
  · rw [h.kept place fun _ hentry => hmade hentry.1, hat]

/-- What is there where directories are made was there or is one of them. -/
theorem Differs.of_directories {made : List Place}
    (h : t.Differs u fun q entry => q ∈ made ∧ entry = .directory) {place : Place} {entry : Entry}
    (hat : u.at? place = some entry) :
    t.at? place = some entry ∨ place ∈ made ∧ entry = .directory := by
  by_cases hmade : place ∈ made
  · rw [h.holds place _ ⟨hmade, rfl⟩] at hat
    exact Or.inr ⟨hmade, (Option.some.inj hat).symm⟩
  · rw [h.kept place fun _ hentry => hmade hentry.1] at hat
    exact Or.inl hat

theorem differs_nothing (t : FileTree) :
    t.Differs t fun q entry => q ∈ ([] : List Place) ∧ entry = .directory :=
  (Differs.refl t).congr (fun _ _ hq => absurd hq.1 List.not_mem_nil) fun _ _ hq => hq.elim

/-- **The stages of a path are created, and nothing else.** -/
theorem createAlong_ok {place : Place} {parts : List String}
    (h : t.createAlong place parts = (.ok (), u)) :
    t.Differs u fun q entry => q ∈ stages place parts ∧ entry = .directory := by
  induction t, place, parts using createAlong.induct with
  | case1 t place =>
      obtain rfl : t = u := (Prod.mk.inj h).2
      exact differs_nothing t
  | case2 t place rest ih => exact ih h
  | case3 t place rest _ ih => exact ih h
  | case4 t place part rest hdot hdots hat ih =>
      rw [createAlong_name t place hdot hdots, hat] at h
      rw [stages_name place hdot hdots]
      exact (ih h).directory_there hat
  | case5 t place part rest hdot hdots content hat =>
      rw [createAlong_name t place hdot hdots, hat] at h
      cases h
  | case6 t place part rest hdot hdots hat fault hcreate =>
      simp only [createAlong_name t place hdot hdots, hat, hcreate] at h
      cases h
  | case7 t place part rest hdot hdots hat t' hcreate ih =>
      simp only [createAlong_name t place hdot hdots, hat, hcreate] at h
      obtain ⟨-, rfl⟩ := createDirectoryAt_ok hcreate
      rw [stages_name place hdot hdots]
      exact (ih h).directory_first (List.concat_ne_nil part place) hat

/-- No directory can be made at a place: a file is there, or the tree refuses it. -/
def Blocks (t : FileTree) (place : Place) : Prop :=
  (∃ content, t.at? place = some (.file content)) ∨
    t.at? place = none ∧ t.refuses place = true

/-- **A path that cannot be created is created up to the first stage that is blocked.** -/
theorem createAlong_error {place : Place} {parts : List String} {fault : FileFault}
    (h : t.createAlong place parts = (.error fault, u)) :
    ∃ made blocked rest, stages place parts = made ++ blocked :: rest ∧
      (t.Differs u fun q entry => q ∈ made ∧ entry = .directory) ∧ u.Blocks blocked := by
  induction t, place, parts using createAlong.induct with
  | case1 t place =>
      rw [createAlong] at h
      cases h
  | case2 t place rest ih => exact ih h
  | case3 t place rest _ ih => exact ih h
  | case4 t place part rest hdot hdots hat ih =>
      rw [createAlong_name t place hdot hdots, hat] at h
      rw [stages_name place hdot hdots]
      obtain ⟨made, blocked, after, hstages, hmade, hblocked⟩ := ih h
      exact ⟨(place ++ [part]) :: made, blocked, after, by rw [hstages, List.cons_append],
        hmade.directory_there hat, hblocked⟩
  | case5 t place part rest hdot hdots content hat =>
      rw [createAlong_name t place hdot hdots, hat] at h
      obtain rfl : t = u := (Prod.mk.inj h).2
      rw [stages_name place hdot hdots]
      exact ⟨[], place ++ [part], _, rfl, differs_nothing t, Or.inl ⟨content, hat⟩⟩
  | case6 t place part rest hdot hdots hat fault' hcreate =>
      simp only [createAlong_name t place hdot hdots, hat, hcreate] at h
      obtain rfl : t = u := (Prod.mk.inj h).2
      rw [stages_name place hdot hdots]
      refine ⟨[], place ++ [part], _, rfl, differs_nothing t, Or.inr ⟨hat, ?_⟩⟩
      by_contra hrefuses
      simp [createDirectoryAt, hat, hrefuses] at hcreate
  | case7 t place part rest hdot hdots hat t' hcreate ih =>
      simp only [createAlong_name t place hdot hdots, hat, hcreate] at h
      obtain ⟨-, rfl⟩ := createDirectoryAt_ok hcreate
      rw [stages_name place hdot hdots]
      obtain ⟨made, blocked, after, hstages, hmade, hblocked⟩ := ih h
      exact ⟨(place ++ [part]) :: made, blocked, after, by rw [hstages, List.cons_append],
        hmade.directory_first (List.concat_ne_nil part place) hat, hblocked⟩

/-- Whether a path can be created or not, only directories at stages of it are made. -/
theorem createAlong_made (t : FileTree) (place : Place) (parts : List String) :
    ∃ made : List Place, (∀ q ∈ made, q ∈ stages place parts) ∧
      t.Differs (t.createAlong place parts).2 fun q entry => q ∈ made ∧ entry = .directory := by
  rcases h : t.createAlong place parts with ⟨fault | _, u⟩
  · obtain ⟨made, blocked, rest, hstages, hmade, -⟩ := createAlong_error h
    exact ⟨made, fun q hq => hstages ▸ List.mem_append_left _ hq, hmade⟩
  · exact ⟨_, fun q hq => hq, createAlong_ok h⟩

/-! ## Writing -/

/-- The place that a path is seen from. -/
def origin (directory : Place) (path : String) : Place :=
  if isAbsolute path then [] else directory

theorem at?_origin {directory : Place} (h : t.at? directory = some .directory) (path : String) :
    t.at? (origin directory path) = some .directory := by
  rw [origin]
  split
  · rfl
  · exact h

theorem ensureDirectories_eq_self {directory : Place} {path : String}
    (h : ∀ stage ∈ stages (origin directory path) (parts path), t.at? stage = some .directory) :
    t.ensureDirectories directory path = (.ok (), t) :=
  createAlong_eq_self h

theorem length_origin_le (directory : Place) (path : String) :
    (origin directory path).length ≤ directory.length := by
  rw [origin]
  split
  · exact Nat.zero_le _
  · exact Nat.le_refl _

theorem locate_eq_ok_iff {directory place : Place} {path : String} :
    t.locate directory path = .ok place ↔
      path ≠ "" ∧
        (∀ stage ∈ stages (origin directory path) (parts path).dropLast,
          t.at? stage = some .directory) ∧
        place = destination (origin directory path) (parts path) := by
  unfold locate
  by_cases hempty : path = ""
  · simp [hempty]
  · rw [if_neg (by simpa using hempty), follow_eq_ok_iff]
    simp [hempty, origin]

/-- **A file is written where nothing is or a file**, in a directory that is there. -/
theorem writeText_eq_ok_iff {directory : Place} {path text : String} :
    t.writeText directory path text = .ok u ↔
      ∃ place, t.locate directory path = .ok place ∧ promisesDirectory path = false ∧
        t.at? place ≠ some .directory ∧ t.refuses place = false ∧
        u = t.put place (.file (Text.Utf8.encode text)) := by
  unfold writeText writeBytes
  cases hlocate : t.locate directory path with
  | error fault => simp
  | ok place =>
      by_cases hpromises : promisesDirectory path = true
      · simp [hpromises]
      · by_cases hat : t.at? place = some .directory
        · simp [hpromises, hat]
        · by_cases hrefuses : t.refuses place = true
          · simp [hpromises, hat, hrefuses]
          · simp only [hpromises, hat, hrefuses, Except.ok.injEq, exists_eq_left', ne_eq,
              not_false_eq_true, true_and, if_false, Bool.false_eq_true]
            exact eq_comm

/-! ## Well-formed trees -/

/-- Places are made of names, and everything is in a directory. -/
structure WellFormed (t : FileTree) : Prop where
  names : ∀ e ∈ t.entries.entries, ∀ name ∈ e.1, IsName name
  parents : ∀ e ∈ t.entries.entries, t.at? e.1.dropLast = some .directory

theorem mem_entries_iff {place : Place} {entry : Entry} :
    (place, entry) ∈ t.entries.entries ↔ t.entries.get? place = some entry :=
  ⟨Entries.find?_of_mem t.entries.ascending, Entries.mem_of_find?⟩

theorem WellFormed.isName (ht : t.WellFormed) {place : Place} {entry : Entry}
    (h : t.at? place = some entry) : ∀ name ∈ place, IsName name := by
  by_cases hnil : place = []
  · subst hnil
    simp
  · rw [at?_of_ne_nil hnil] at h
    exact ht.names _ (mem_entries_iff.2 h)

theorem WellFormed.parent (ht : t.WellFormed) {place : Place} {entry : Entry}
    (h : t.at? place = some entry) : t.at? place.dropLast = some .directory := by
  by_cases hnil : place = []
  · subst hnil
    rfl
  · rw [at?_of_ne_nil hnil] at h
    exact ht.parents _ (mem_entries_iff.2 h)

/-- Everything on the way to a place is a directory. -/
theorem WellFormed.directory_of_append (ht : t.WellFormed) {place rest : Place} {entry : Entry}
    (h : t.at? (place ++ rest) = some entry) (hrest : rest ≠ []) :
    t.at? place = some .directory := by
  induction rest using List.reverseRecOn generalizing entry with
  | nil => exact absurd rfl hrest
  | append_singleton rest name ih =>
      have hparent := ht.parent h
      rw [← List.append_assoc, List.dropLast_concat] at hparent
      by_cases hnil : rest = []
      · rwa [hnil, List.append_nil] at hparent
      · exact ih hparent hnil

/-- Something can be put into a directory, and a file not over a directory. -/
theorem WellFormed.put (ht : t.WellFormed) {place : Place} {name : String} {entry : Entry}
    (hplace : t.at? place = some .directory) (hname : IsName name)
    (hkind : t.at? (place ++ [name]) = some .directory → entry = .directory) :
    (t.put (place ++ [name]) entry).WellFormed := by
  have hne : place ++ [name] ≠ [] := List.concat_ne_nil name place
  have hkeeps : ∀ q, t.at? q = some .directory →
      (t.put (place ++ [name]) entry).at? q = some .directory := by
    intro q hq
    rw [at?_put hne]
    split
    · rename_i heq
      rw [hkind (heq ▸ hq)]
    · exact hq
  refine ⟨fun e he n hn => ?_, fun e he => ?_⟩
  · rcases Entries.mem_put he with rfl | he
    · rcases List.mem_append.1 hn with hn | hn
      · exact ht.isName hplace n hn
      · rw [List.mem_singleton.1 hn]
        exact hname
    · exact ht.names e he n hn
  · rcases Entries.mem_put he with rfl | he
    · rw [List.dropLast_concat]
      exact hkeeps place hplace
    · exact hkeeps _ (ht.parents e he)

/-- **Creating directories keeps a tree well-formed** and leads to a directory, from a directory
on. -/
theorem WellFormed.createAlong (ht : t.WellFormed) {place : Place}
    (hplace : t.at? place = some .directory) {parts : List String}
    (hparts : ∀ p ∈ parts, IsPart p) :
    (t.createAlong place parts).2.WellFormed ∧
      ((t.createAlong place parts).1 = .ok () →
        (t.createAlong place parts).2.at? (destination place parts) = some .directory) := by
  induction t, place, parts using FileTree.createAlong.induct with
  | case1 t place => exact ⟨ht, fun _ => hplace⟩
  | case2 t place rest ih =>
      exact ih ht hplace fun p hp => hparts p (List.mem_cons_of_mem _ hp)
  | case3 t place rest _ ih =>
      exact ih ht (ht.parent hplace) fun p hp => hparts p (List.mem_cons_of_mem _ hp)
  | case4 t place part rest hdot hdots hat ih =>
      rw [createAlong_name t place hdot hdots, hat, destination_name place hdot hdots]
      exact ih ht hat fun p hp => hparts p (List.mem_cons_of_mem _ hp)
  | case5 t place part rest hdot hdots content hat =>
      rw [createAlong_name t place hdot hdots, hat]
      exact ⟨ht, nofun⟩
  | case6 t place part rest hdot hdots hat fault hcreate =>
      simp only [createAlong_name t place hdot hdots, hat, hcreate]
      exact ⟨ht, nofun⟩
  | case7 t place part rest hdot hdots hat t' hcreate ih =>
      simp only [createAlong_name t place hdot hdots, hat, hcreate]
      obtain ⟨-, rfl⟩ := createDirectoryAt_ok hcreate
      have hname : IsName part := ⟨hparts part (List.mem_cons_self ..), hdot, hdots⟩
      rw [destination_name place hdot hdots]
      refine ih (ht.put hplace hname fun _ => rfl) ?_ fun p hp =>
        hparts p (List.mem_cons_of_mem _ hp)
      rw [at?_put (List.concat_ne_nil part place), if_pos rfl]

/-- A path through directories leads to a directory. -/
theorem WellFormed.at?_destination (ht : t.WellFormed) {place : Place}
    (hplace : t.at? place = some .directory) {parts : List String} (hparts : ∀ p ∈ parts, IsPart p)
    (hstages : ∀ stage ∈ stages place parts, t.at? stage = some .directory) :
    t.at? (destination place parts) = some .directory := by
  have hthere := (ht.createAlong hplace hparts).2
  rw [createAlong_eq_self hstages] at hthere
  exact hthere rfl

theorem WellFormed.ensureDirectories (ht : t.WellFormed) {directory : Place}
    (hdirectory : t.at? directory = some .directory) (path : String) :
    (t.ensureDirectories directory path).2.WellFormed ∧
      ((t.ensureDirectories directory path).1 = .ok () →
        (t.ensureDirectories directory path).2.at?
          (destination (origin directory path) (parts path)) = some .directory) :=
  ht.createAlong (at?_origin hdirectory path) fun _ => isPart_of_mem_parts

end FileTree

end ClientGen
