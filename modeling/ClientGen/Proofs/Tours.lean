import ClientGen.Proofs.Visits

/-!
# A walk that lists each directory when it is met

The templates are walked through while the output is made.  As long as the output and the templates
are apart nothing changes among the templates after the first stop, so the walk meets what it would
meet if everything were listed at once: the start as it was before, and everything below it as it is
when the output directory is there.

* `FileTree.inTurn_error_iff` — a run fails at the first stop that fails.
* `Rendition.tour_keeps` — what each visit keeps is kept by a walk.
* `Rendition.tour_eq_inTurn` — a walk through a part of the tree that stays as it is.
* `Rendition.renderTree_eq_inTurn`, `Rendition.walks_stops` — which stops a walk makes, in order.
-/

namespace ClientGen

open ClientGen.Path Place FileTree

variable {t u v : FileTree} {directory root : Place} {path : String}

/-! ## Stops in turn -/

namespace FileTree

variable {act act' : FileTree → Stop → Except GeneratorError Unit × FileTree}
  {stops before after : List Stop} {stop : Stop}

theorem inTurn_append (act : FileTree → Stop → Except GeneratorError Unit × FileTree)
    (t : FileTree) (before after : List Stop) :
    inTurn act t (before ++ after) =
      match inTurn act t before with
      | (.ok (), t) => inTurn act t after
      | (.error e, t) => (.error e, t) := by
  induction before generalizing t with
  | nil => rfl
  | cons stop before ih =>
      rw [List.cons_append, inTurn, inTurn]
      rcases act t stop with ⟨_ | _, w⟩
      · rfl
      · exact ih w

/-- A run that succeeds succeeds up to each stop, and at it. -/
theorem inTurn_append_ok (h : inTurn act t (before ++ stop :: after) = (.ok (), u)) :
    ∃ v w, inTurn act t before = (.ok (), v) ∧ act v stop = (.ok (), w) ∧
      inTurn act w after = (.ok (), u) := by
  rw [inTurn_append] at h
  split at h
  · rename_i v hbefore
    rw [inTurn] at h
    split at h
    · rename_i w hstop
      exact ⟨v, w, hbefore, hstop, h⟩
    · cases h
  · cases h

/-- **A run fails at the first stop that fails.** -/
theorem inTurn_error_iff {e : GeneratorError} :
    inTurn act t stops = (.error e, u) ↔
      ∃ before stop after v, stops = before ++ stop :: after ∧
        inTurn act t before = (.ok (), v) ∧ act v stop = (.error e, u) := by
  constructor
  · intro h
    induction stops generalizing t with
    | nil => cases h
    | cons stop stops ih =>
        rw [inTurn] at h
        split at h
        · rename_i w hstop
          obtain ⟨before, failing, after, v, rfl, hbefore, hfails⟩ := ih h
          refine ⟨stop :: before, failing, after, v, rfl, ?_, hfails⟩
          rw [inTurn, hstop]
          exact hbefore
        · rename_i e' w hstop
          obtain ⟨rfl, rfl⟩ : e' = e ∧ w = u := by simpa using h
          exact ⟨[], stop, stops, t, rfl, rfl, hstop⟩
  · rintro ⟨before, stop, after, v, rfl, hbefore, hfails⟩
    rw [inTurn_append, hbefore]
    simp only [inTurn, hfails]

/-- A run without anything left to make changes nothing. -/
theorem inTurn_eq_self (h : ∀ stop ∈ stops, act t stop = (.ok (), t)) :
    inTurn act t stops = (.ok (), t) := by
  induction stops with
  | nil => rfl
  | cons stop stops ih =>
      rw [inTurn, h stop (List.mem_cons_self ..)]
      exact ih fun other hother => h other (List.mem_cons_of_mem _ hother)

/-- What each stop keeps is kept by all of them. -/
theorem inTurn_keeps {P : FileTree → Prop} (ht : P t)
    (h : ∀ stop ∈ stops, ∀ v, P v → P (act v stop).2) : P (inTurn act t stops).2 := by
  induction stops generalizing t with
  | nil => exact ht
  | cons stop stops ih =>
      have hfirst := h stop (List.mem_cons_self ..) t ht
      rw [inTurn]
      rcases hact : act t stop with ⟨_ | _, w⟩
      · rwa [hact] at hfirst
      · rw [hact] at hfirst
        exact ih hfirst fun other hother => h other (List.mem_cons_of_mem _ hother)

/-- Stops at each of which several others are made, are a run through all of these. -/
theorem inTurn_flatMap {P : FileTree → Prop} {parts : Stop → List Stop} (ht : P t)
    (hparts : ∀ stop ∈ stops, ∀ v, P v → act v stop = inTurn act' v (parts stop))
    (hkeeps : ∀ stop ∈ stops, ∀ v, P v → P (act v stop).2) :
    inTurn act t stops = inTurn act' t (stops.flatMap parts) := by
  induction stops generalizing t with
  | nil => rfl
  | cons stop stops ih =>
      have hfirst := hkeeps stop (List.mem_cons_self ..) t ht
      rw [List.flatMap_cons, inTurn_append, inTurn, ← hparts stop (List.mem_cons_self ..) t ht]
      rcases hact : act t stop with ⟨_ | _, w⟩
      · rfl
      · rw [hact] at hfirst
        exact ih hfirst (fun other hother => hparts other (List.mem_cons_of_mem _ hother))
          fun other hother => hkeeps other (List.mem_cons_of_mem _ hother)

/-- The stop is at something that is there, with the path that its names lead along. -/
structure Stop.StandsIn (t : FileTree) (root : Place) (path : String) (stop : Stop) : Prop where
  path_eq : stop.path = joinAll path stop.names
  at?_eq : t.at? (root ++ stop.names) = some stop.entry

theorem Stop.StandsIn.named (ht : t.WellFormed) (h : stop.StandsIn t root path) :
    stop.Named path :=
  ⟨h.path_eq, fun name hname => ht.isName h.at?_eq name (List.mem_append_right _ hname)⟩

/-- What is listed is at the end of a path with one more name. -/
theorem Stop.StandsIn.of_mem_listing {child : Stop} (hpath : stop.path = joinAll path stop.names)
    (h : child ∈ t.listing root stop) : child.StandsIn t root path := by
  obtain ⟨-, name, entry, hat, rfl⟩ := mem_listing.1 h
  refine ⟨?_, hat⟩
  rw [Stop.onward, hpath]
  exact (joinAll_concat ..).symm

end FileTree

namespace Rendition

variable {r : Rendition} {stop start : Stop}

/-- **What each visit keeps is kept by a walk.** -/
theorem tour_keeps {P : FileTree → Prop} {Q : Stop → Prop}
    (hvisit : ∀ t stop, P t → Q stop → P (r.visit directory t stop).2)
    (hlisting : ∀ t stop, P t → Q stop → ∀ child ∈ t.listing root stop, Q child) {depth : Nat}
    (ht : P t) (hstop : Q stop) : P (r.tour directory root depth t stop).2 := by
  induction depth generalizing t stop with
  | zero => exact ht
  | succ depth ih =>
      have hfirst := hvisit t stop ht hstop
      rw [tour]
      rcases hresult : r.visit directory t stop with ⟨_ | _, w⟩
      · rwa [hresult] at hfirst
      · rw [hresult] at hfirst
        refine inTurn_keeps hfirst fun child hchild v hv => ?_
        exact ih hv (hlisting t stop ht hstop child hchild)

/-! ## A part of the tree that stays as it is -/

/-- Nothing in the output directory is at a place of a template. -/
def Outside (r : Rendition) (directory root : Place) : Prop :=
  ∀ names names', r.output directory ++ names ≠ root ++ names'

/-- The output directory is there with everything on the way to it, and the templates are those of
another tree. -/
structure Settled (r : Rendition) (directory root : Place) (t u : FileTree) : Prop where
  way : ∀ stage ∈ r.way directory [], u.at? stage = some .directory
  same : ∀ names, u.at? (root ++ names) = t.at? (root ++ names)

/-- **Once the output directory is there, a visit leaves the templates as they are.** -/
theorem Touches.settled (houtside : r.Outside directory root)
    (hnames : ∀ name ∈ stop.names, IsName name) (h : r.Settled directory root t u)
    (htouches : r.Touches directory u stop v) : r.Settled directory root t v := by
  refine ⟨fun stage hstage => htouches.at?_directory (h.way stage hstage), fun names => ?_⟩
  rw [← h.same]
  cases htouches with
  | created =>
      have hway : ∀ stage ∈ stages (origin directory r.outputRoot) (parts r.outputRoot),
          u.at? stage = some .directory := by
        have hsettled := h.way
        rwa [way_nil] at hsettled
      rw [createAlong_append hway]
      obtain ⟨made, hmade, hdiffers⟩ := u.createAlong_made (r.output directory) stop.names
      refine hdiffers.kept _ fun entry hentry => ?_
      obtain ⟨front, name, rest, -, hplace⟩ := (mem_stages_names hnames).1 (hmade _ hentry.1)
      exact houtside _ _ hplace.symm
  | written => rw [at?_put (by simp), if_neg (houtside _ _).symm]
  | nothing => rfl

theorem visit_settled (ht : t.WellFormed) (houtput : r.outputRoot ≠ "")
    (houtside : r.Outside directory root) (h : r.Settled directory root t u)
    (hstop : stop.StandsIn t root path) :
    r.Settled directory root t (r.visit directory u stop).2 :=
  (visit_touches houtput (hstop.named ht)).settled houtside (hstop.named ht).isName h

theorem tour_settled (ht : t.WellFormed) (houtput : r.outputRoot ≠ "")
    (houtside : r.Outside directory root) {depth : Nat} (h : r.Settled directory root t u)
    (hstop : stop.StandsIn t root path) :
    r.Settled directory root t (r.tour directory root depth u stop).2 :=
  tour_keeps (Q := Stop.StandsIn t root path)
    (fun _ _ hv hs => visit_settled ht houtput houtside hv hs)
    (fun _ _ hv hs _ hchild => .of_mem_listing hs.path_eq (listing_congr hv.same ▸ hchild)) h hstop

/-- **A walk through a part of the tree that stays as it is** visits everything there in order. -/
theorem tour_eq_inTurn (ht : t.WellFormed) (houtput : r.outputRoot ≠ "")
    (houtside : r.Outside directory root) {depth : Nat} (hsettled : r.Settled directory root t u)
    (hstop : stop.StandsIn t root path)
    (hdepth : ∀ names, t.at? (root ++ (stop.names ++ names)) ≠ none → names.length < depth) :
    r.tour directory root depth u stop
      = inTurn (r.visit directory) u (t.subtree root stop) := by
  induction depth generalizing u stop with
  | zero => exact absurd (hdepth [] (by simp [hstop.at?_eq])) (Nat.not_lt_zero _)
  | succ depth ih =>
      have hfirst := visit_settled ht houtput houtside hsettled hstop
      rw [tour, listing_congr hsettled.same, subtree_eq ht hstop.at?_eq, inTurn]
      rcases hresult : r.visit directory u stop with ⟨_ | _, w⟩
      · rfl
      · rw [hresult] at hfirst
        refine inTurn_flatMap hfirst (fun child hchild v hv => ?_) fun child hchild v hv =>
          tour_settled ht houtput houtside hv (.of_mem_listing hstop.path_eq hchild)
        refine ih hv (.of_mem_listing hstop.path_eq hchild) fun names hnames => ?_
        obtain ⟨-, name, entry, -, rfl⟩ := mem_listing.1 hchild
        rw [Stop.onward, List.append_assoc] at hnames
        exact Nat.lt_of_succ_lt_succ (hdepth (name :: names) hnames)

/-! ## The stops of a walk -/

/-- The tree in which the output directory is there, or as much of the way to it as can be made. -/
def opened (r : Rendition) (directory : Place) (t : FileTree) : FileTree :=
  (t.ensureDirectories directory r.outputRoot).2

/-- What a walk meets at the end of some names.  The start is listed before the output directory is
made, and everything below what is listed there after that. -/
def view (r : Rendition) (directory root : Place) (t : FileTree) : List String → Option Entry
  | [] => t.at? root
  | name :: rest =>
      if t.at? (root ++ [name]) = none then none
      else (r.opened directory t).at? (root ++ name :: rest)

/-- The stops of a walk in order. -/
def stops (r : Rendition) (directory root : Place) (t : FileTree) (start : Stop) : List Stop :=
  start :: (t.listing root start).flatMap ((r.opened directory t).subtree root)

/-- Only directories on the way of the output path are made. -/
theorem opened_made (r : Rendition) (directory : Place) (t : FileTree) :
    ∃ made : List Place, (∀ q ∈ made, q ∈ r.way directory []) ∧
      t.Differs (r.opened directory t) fun q entry => q ∈ made ∧ entry = .directory := by
  rw [way_nil]
  exact t.createAlong_made _ _

theorem opened_wellFormed (ht : t.WellFormed) (hdirectory : t.at? directory = some .directory) :
    (r.opened directory t).WellFormed :=
  (ht.ensureDirectories hdirectory r.outputRoot).1

theorem at?_opened {place : Place} {entry : Entry} (h : t.at? place = some entry) :
    (r.opened directory t).at? place = some entry := by
  obtain ⟨made, -, hdiffers⟩ := r.opened_made directory t
  exact hdiffers.at?_of_directories h

/-- A walk can go deep enough. -/
theorem length_lt_depthLimit {place : Place} (h : (r.opened directory t).at? place ≠ none) :
    place.length < r.depthLimit directory t := by
  obtain ⟨entry, hentry⟩ := Option.ne_none_iff_exists'.1 h
  obtain ⟨made, hmade, hdiffers⟩ := r.opened_made directory t
  rw [depthLimit]
  rcases hdiffers.of_directories hentry with hat | ⟨hplace, -⟩
  · have hdepth := length_le_depth hat
    omega
  · have hstage := hmade place hplace
    rw [way_nil] at hstage
    have hlength := length_le_of_mem_stages hstage
    have horigin := length_origin_le directory r.outputRoot
    omega

theorem view_cons {name : String} {rest : List String} {entry : Entry} :
    r.view directory root t (name :: rest) = some entry ↔
      (∃ listed, t.at? (root ++ [name]) = some listed) ∧
        (r.opened directory t).at? (root ++ name :: rest) = some entry := by
  rw [view]
  cases t.at? (root ++ [name]) with
  | none => simp
  | some listed => simp

/-- What is listed at the start is still there when the output directory is made. -/
theorem standsIn_opened (r : Rendition) (directory : Place) (hnames : start.names = [])
    (hpath : start.path = path) {child : Stop} (h : child ∈ t.listing root start) :
    (∃ name, child.names = [name]) ∧ child.StandsIn (r.opened directory t) root path := by
  have hway : start.path = joinAll path start.names := by
    rw [hpath, hnames]
    rfl
  have hstands := Stop.StandsIn.of_mem_listing hway h
  obtain ⟨-, name, entry, -, rfl⟩ := mem_listing.1 h
  exact ⟨⟨name, by rw [Stop.onward, hnames, List.nil_append]⟩, hstands.path_eq,
    at?_opened hstands.at?_eq⟩

/-- When the output directory has been made, everything on the way to it is there. -/
theorem settled_opened
    (hcreate : t.ensureDirectories directory r.outputRoot = (.ok (), r.opened directory t)) :
    r.Settled directory root (r.opened directory t) (r.opened directory t) := by
  refine ⟨fun stage hstage => ?_, fun _ => rfl⟩
  rw [way_nil] at hstage
  exact (createAlong_ok hcreate).holds stage _ ⟨hstage, rfl⟩

section

variable (ht : t.WellFormed) (hdirectory : t.at? directory = some .directory)
  (hstart : t.start directory path = .ok (root, start))

include ht hdirectory hstart

/-- Behind the start a walk visits everything below what has been listed there. -/
theorem inTurn_tour (houtput : r.outputRoot ≠ "") (houtside : r.Outside directory root)
    (hcreate : t.ensureDirectories directory r.outputRoot = (.ok (), r.opened directory t))
    {depth : Nat} (hdepth : r.depthLimit directory t ≤ depth + 1) :
    inTurn (r.tour directory root depth) (r.opened directory t) (t.listing root start)
      = inTurn (r.visit directory) (r.opened directory t)
          ((t.listing root start).flatMap ((r.opened directory t).subtree root)) := by
  obtain ⟨-, hnames, hpath, -, -⟩ := start_eq_ok_iff.1 hstart
  have hwellFormed := opened_wellFormed (r := r) ht hdirectory
  refine inTurn_flatMap (settled_opened hcreate) (fun child hchild v hv => ?_)
    fun child hchild v hv =>
      tour_settled hwellFormed houtput houtside hv
        (standsIn_opened r directory hnames hpath hchild).2
  obtain ⟨⟨name, hname⟩, hstands⟩ := standsIn_opened r directory hnames hpath hchild
  refine tour_eq_inTurn hwellFormed houtput houtside hv hstands fun names hmet => ?_
  have hlength := length_lt_depthLimit hmet
  rw [hname, List.length_append, List.length_append, List.length_singleton] at hlength
  omega

/-- **A walk visits its stops in turn**, if the output and the templates are apart. -/
theorem renderTree_eq_inTurn (houtput : r.outputRoot ≠ "")
    (houtside : r.Outside directory root) :
    r.renderTree directory t path
      = inTurn (r.visit directory) t (r.stops directory root t start) := by
  obtain ⟨-, hnames, -, -, -⟩ := start_eq_ok_iff.1 hstart
  rw [renderTree, hstart]
  simp only
  rw [depthLimit, tour, stops, inTurn]
  cases hentry : start.entry with
  | file content =>
      have hnone : t.listing root start = [] := by rw [listing, hentry]
      rw [hnone]
      rfl
  | directory =>
      rw [visit_directory hentry, hnames]
      rcases hcreate : t.ensureDirectories directory (joinAll r.outputRoot []) with ⟨fault | _, w⟩
      · rfl
      · obtain rfl : r.opened directory t = w := congrArg Prod.snd hcreate
        exact inTurn_tour ht hdirectory hstart houtput houtside hcreate (Nat.le_refl _)

omit hdirectory in
/-- A stop is made exactly if it is at something that the walk meets. -/
theorem mem_stops_iff {stop : Stop} :
    stop ∈ r.stops directory root t start ↔
      stop.path = joinAll path stop.names ∧
        r.view directory root t stop.names = some stop.entry := by
  obtain ⟨-, hnames, hpath, hat, -⟩ := start_eq_ok_iff.1 hstart
  rw [stops, List.mem_cons, List.mem_flatMap]
  constructor
  · rintro (rfl | ⟨child, hchild, hstop⟩)
    · rw [hnames]
      exact ⟨hpath, hat⟩
    · have hstands := (standsIn_opened r directory hnames hpath hchild).2
      obtain ⟨-, name, listed, hlisted, rfl⟩ := mem_listing.1 hchild
      obtain ⟨rest, entry, hentry, rfl⟩ := (mem_subtree hstands.at?_eq).1 hstop
      rw [hnames] at hlisted
      rw [Stop.onward, hnames, List.append_assoc] at hentry
      rw [Stop.onward_onward, Stop.onward, hnames, hpath]
      exact ⟨rfl, view_cons.2 ⟨⟨listed, hlisted⟩, hentry⟩⟩
  · obtain ⟨names, way, entry⟩ := stop
    rintro ⟨hway, hmet⟩
    obtain rfl : way = joinAll path names := hway
    cases names with
    | nil =>
        obtain rfl : start.entry = entry := Option.some.inj (hat.symm.trans hmet)
        have hself := start.onward_nil
        rw [Stop.onward, hnames, hpath] at hself
        exact Or.inl hself
    | cons name rest =>
        obtain ⟨⟨listed, hlisted⟩, hentry⟩ := view_cons.1 hmet
        have hdir : t.at? root = some .directory :=
          ht.directory_of_append hlisted (List.cons_ne_nil _ _)
        have hchild : start.onward [name] listed ∈ t.listing root start :=
          mem_listing.2
            ⟨Option.some.inj (hat.symm.trans hdir), name, listed, by rwa [hnames], rfl⟩
        have hstands := (standsIn_opened r directory hnames hpath hchild).2
        refine Or.inr ⟨_, hchild, (mem_subtree hstands.at?_eq).2 ⟨rest, entry, ?_, ?_⟩⟩
        · rw [Stop.onward, hnames]
          exact hentry
        · rw [Stop.onward_onward, Stop.onward, hnames, hpath]
          rfl

/-- **The stops of a walk** are at what the walk meets, in the order of places. -/
theorem walks_stops : Walks (r.view directory root t) path (r.stops directory root t start) := by
  have hwellFormed := opened_wellFormed (r := r) ht hdirectory
  refine ⟨fun stop => mem_stops_iff ht hstart,
    t.listing_flatMap_ascending _ root start, ?isName, ?directory⟩
  case isName =>
    intro names entry hmet name hname
    cases names with
    | nil => cases hname
    | cons first rest =>
        exact hwellFormed.isName (view_cons.1 hmet).2 name (List.mem_append_right _ hname)
  case directory =>
    intro front rest entry hmet hrest
    cases front with
    | nil =>
        obtain ⟨name, rest, rfl⟩ := List.exists_cons_of_ne_nil hrest
        obtain ⟨⟨listed, hlisted⟩, -⟩ := view_cons.1 hmet
        exact ht.directory_of_append hlisted (List.cons_ne_nil _ _)
    | cons name front =>
        obtain ⟨hlisted, hentry⟩ := view_cons.1 hmet
        have hlong : (r.opened directory t).at? ((root ++ name :: front) ++ rest) = some entry := by
          rwa [List.append_assoc]
        exact view_cons.2 ⟨hlisted, hwellFormed.directory_of_append hlong hrest⟩

end

/-! ## What a walk meets that was not there -/

/-- What a walk meets at the end of some names: what was there, or a directory on the way of the
output path, if it is in one that was listed at the start. -/
inductive Meets (r : Rendition) (directory root : Place) (t : FileTree) :
    List String → Entry → Prop
  | there {names : List String} {entry : Entry} (hat : t.at? (root ++ names) = some entry) :
      Meets r directory root t names entry
  | added {name : String} {rest : List String} (hlisted : t.at? (root ++ [name]) ≠ none)
      (hway : root ++ name :: rest ∈ r.way directory []) :
      Meets r directory root t (name :: rest) .directory

/-- **What a walk meets**, if the output directory can be made. -/
theorem view_eq_some_iff (ht : t.WellFormed)
    (hcreate : t.at? root = some .directory →
      t.ensureDirectories directory r.outputRoot = (.ok (), r.opened directory t))
    {names : List String} {entry : Entry} :
    r.view directory root t names = some entry ↔ r.Meets directory root t names entry := by
  have hopened : ∀ name listed, t.at? (root ++ [name]) = some listed →
      t.Differs (r.opened directory t) fun place entry =>
        place ∈ r.way directory [] ∧ entry = .directory := by
    intro name listed hlisted
    rw [way_nil]
    exact createAlong_ok (hcreate (ht.directory_of_append hlisted (List.cons_ne_nil _ _)))
  constructor
  · intro hmet
    cases names with
    | nil => exact .there (by rwa [List.append_nil])
    | cons name rest =>
        obtain ⟨⟨listed, hlisted⟩, hentry⟩ := view_cons.1 hmet
        rcases (hopened name listed hlisted).of_directories hentry with hat | ⟨hplace, rfl⟩
        · exact .there hat
        · exact .added (by simp [hlisted]) hplace
  · intro hmet
    cases hmet with
    | there hat =>
        cases names with
        | nil => rwa [List.append_nil] at hat
        | cons name rest => exact view_cons.2 ⟨ht.at?_first hat, at?_opened hat⟩
    | added hlisted hplace =>
        obtain ⟨listed, hlisted⟩ := Option.ne_none_iff_exists'.1 hlisted
        exact view_cons.2 ⟨⟨listed, hlisted⟩,
          (hopened _ listed hlisted).holds _ _ ⟨hplace, rfl⟩⟩

/-- Below a directory that was missing nothing can be made without making that one. -/
theorem first_of_way (ht : t.WellFormed) (hdirectory : t.at? directory = some .directory)
    (hcreate : t.ensureDirectories directory r.outputRoot = (.ok (), r.opened directory t))
    {name : String} {rest : List String} (hstage : root ++ name :: rest ∈ r.way directory [])
    (hfirst : root ++ [name] ∈ r.way directory [] → t.at? (root ++ [name]) ≠ none) :
    t.at? (root ++ [name]) ≠ none := by
  have hmade := createAlong_ok hcreate
  rw [way_nil] at hstage hfirst
  obtain ⟨listed, hat⟩ :=
    (opened_wellFormed (r := r) ht hdirectory).at?_first (hmade.holds _ _ ⟨hstage, rfl⟩)
  rcases hmade.of_directories hat with hold | ⟨hnew, -⟩
  · simp [hold]
  · exact hfirst hnew

end Rendition

end ClientGen
