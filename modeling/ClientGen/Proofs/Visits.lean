import ClientGen.Proofs.Subtrees

/-!
# What one stop of a walk does to the output

A stop asks for a directory, for a file, or for nothing, and it gets that or the tree stays as it
is.  Only the first stop can ask for several directories at once, those on the way to the output,
and make some of them before it fails.

* `Rendition.Makes` — what is to be made of something that is met below the start of a walk.
* `Rendition.visit_ok` — a stop that succeeds makes exactly that.
* `Rendition.visit_error` — any other stop that fails makes nothing.
* `Rendition.visit_again` — a stop that was successful is so again and then changes nothing.
* `Rendition.visit_touches` — what a stop can do at all, whether it succeeds or fails.
-/

namespace ClientGen

open ClientGen.Path Place FileTree

variable {t u v : FileTree} {directory : Place} {stop : Stop}

/-! ## Templates by their stops -/

namespace FileTree

/-- The stop has the path that its names lead along from the start of the walk. -/
structure Stop.Named (path : String) (stop : Stop) : Prop where
  path_eq : stop.path = joinAll path stop.names
  isName : ∀ name ∈ stop.names, IsName name

theorem Walks.named {meets : List String → Option Entry} {path : String} {stops : List Stop}
    (h : Walks meets path stops) (hstop : stop ∈ stops) : stop.Named path := by
  obtain ⟨hpath, hmet⟩ := (h.mem stop).1 hstop
  exact ⟨hpath, h.isName _ _ hmet⟩

theorem Stop.Named.isName_front {path : String} (h : stop.Named path) {front rest : List String}
    (hnames : stop.names = front ++ rest) : ∀ n ∈ front, IsName n :=
  fun n hn => h.isName n (hnames ▸ List.mem_append_left _ hn)

theorem Stop.Named.isName_last {path : String} (h : stop.Named path) {front : List String}
    {name : String} (hnames : stop.names = front ++ [name]) : IsName name :=
  h.isName name (hnames ▸ List.mem_append_right _ (List.mem_singleton_self name))

/-- Something is made of the template at the stop, under the name without the extension. -/
def Stop.Renders (stop : Stop) : Prop :=
  isTemplate stop.path = true ∧ isPartial stop.fileName = false

/-- The stop is at a template that something is made of exactly if at most one dot is in the name of
what is made. -/
theorem Stop.Named.renders_iff {path : String} (h : stop.Named path) {front : List String}
    {name : String} (hnames : stop.names = front ++ [name]) :
    stop.Renders ↔
      ∃ stem, name = templateNameOf stem ∧ stem ≠ "" ∧ stem.toList.count '.' ≤ 1 := by
  have hname := h.isName_last hnames
  have hpath : fileName? stop.path = some name := by
    rw [h.path_eq, hnames, joinAll_concat]
    exact fileName?_join _ hname
  have hfile : stop.fileName = name := by rw [Stop.fileName, hpath, Option.getD_some]
  rw [Stop.Renders, isTemplate_iff hpath, hfile]
  constructor
  · rintro ⟨⟨stem, hstem, rfl⟩, hpartial⟩
    refine ⟨stem, rfl, hstem, ?_⟩
    have hcount := mt (isPartial_templateNameOf stem).2 (by simp [hpartial])
    omega
  · rintro ⟨stem, rfl, hstem, hcount⟩
    refine ⟨⟨stem, hstem, rfl⟩, ?_⟩
    rw [← Bool.not_eq_true, isPartial_templateNameOf]
    omega

end FileTree

namespace Rendition

variable {r : Rendition}

/-! ## What is to be made -/

/-- The place of the directory to generate into. -/
def output (r : Rendition) (directory : Place) : Place :=
  destination (origin directory r.outputRoot) (parts r.outputRoot)

/-- The places that a path into the output leads through, the last one included. -/
def way (r : Rendition) (directory : Place) (names : List String) : List Place :=
  stages (origin directory r.outputRoot) (parts r.outputRoot ++ names)

/-- What is to be made of something that is met at the end of some names: the output directory with
what is missing on the way there, a directory of each directory, and a file of each template, unless
two dots would be in its name. -/
inductive Makes (r : Rendition) (directory : Place) (names : List String) (entry : Entry) :
    Place → Entry → Prop
  | output {stage : Place} (hnames : names = []) (hentry : entry = .directory)
      (hstage : stage ∈ r.way directory []) : Makes r directory names entry stage .directory
  | directory (hentry : entry = .directory) :
      Makes r directory names entry (r.output directory ++ names) .directory
  | file {front : List String} {stem text : String} {content : List UInt8}
      (hnames : names = front ++ [templateNameOf stem]) (hentry : entry = .file content)
      (hstem : stem ≠ "") (hdots : stem.toList.count '.' ≤ 1)
      (hrender : r.library.render r.context (slashed names) = some text) :
      Makes r directory names entry (r.output directory ++ (front ++ [stem]))
        (.file (Text.Utf8.encode text))

/-- A file is made of one template only. -/
theorem Makes.names_unique {names names' : List String} {entry entry' : Entry} {place : Place}
    {content content' : List UInt8} (h : r.Makes directory names entry place (.file content))
    (h' : r.Makes directory names' entry' place (.file content')) : names = names' := by
  cases h with
  | @file front stem _ _ hnames =>
      generalize hplace : r.output directory ++ (front ++ [stem]) = place at h'
      cases h' with
      | @file front' stem' _ _ hnames' =>
          obtain ⟨rfl, hstem⟩ := List.append_inj' (List.append_cancel_left hplace) rfl
          rw [hnames, hnames', List.singleton_inj.1 hstem]

/-! ## The way to the output -/

theorem way_nil (r : Rendition) (directory : Place) :
    r.way directory [] = stages (origin directory r.outputRoot) (parts r.outputRoot) := by
  rw [way, List.append_nil]

theorem way_append (r : Rendition) (directory : Place) (front : List String) {rest : List String}
    (h : ∀ name ∈ front, IsName name) :
    r.way directory (front ++ rest)
      = r.way directory front ++ stages (r.output directory ++ front) rest := by
  rw [way, way, output, ← List.append_assoc, stages_append, destination_append,
    destination_names _ h]

theorem ensureDirectories_joinAll {names : List String} (h : ∀ name ∈ names, IsName name) :
    t.ensureDirectories directory (joinAll r.outputRoot names)
      = t.createAlong (origin directory r.outputRoot) (parts r.outputRoot ++ names) := by
  have hparts : ∀ name ∈ names, IsPart name := fun name hname => (h name hname).isPart
  rw [ensureDirectories, parts_joinAll _ hparts, isAbsolute_joinAll _ hparts]
  rfl

/-- The path of an output is followed through the directories on the way. -/
theorem locate_joinAll {names : List String} {name : String} {place : Place}
    (h : ∀ name ∈ names, IsName name) (hname : IsName name) :
    t.locate directory (joinAll r.outputRoot (names ++ [name])) = .ok place ↔
      (∀ stage ∈ r.way directory names, t.at? stage = some .directory) ∧
        place = r.output directory ++ (names ++ [name]) := by
  have hnames : ∀ n ∈ names ++ [name], IsName n := by
    intro n hn
    rcases List.mem_append.1 hn with hn | hn
    · exact h n hn
    · rw [List.mem_singleton.1 hn]
      exact hname
  have hparts : ∀ n ∈ names ++ [name], IsPart n := fun n hn => (hnames n hn).isPart
  have hne : joinAll r.outputRoot (names ++ [name]) ≠ "" := by
    rw [joinAll_concat]
    exact join_ne_empty _ hname.isPart
  have horigin : origin directory (joinAll r.outputRoot (names ++ [name]))
      = origin directory r.outputRoot := by
    rw [origin, origin, isAbsolute_joinAll _ hparts]
  rw [locate_eq_ok_iff, horigin, parts_joinAll _ hparts, ← List.append_assoc,
    List.dropLast_concat, List.append_assoc, destination_append, destination_names _ hnames]
  exact and_iff_right hne

theorem target_templateNameOf (r : Rendition) (front : List String) {stem : String}
    (h : stem ≠ "") :
    r.target (front ++ [templateNameOf stem]) = joinAll r.outputRoot (front ++ [stem]) := by
  rw [target, List.dropLast_concat, List.getLast?_concat, Option.getD_some,
    splitExtension_templateNameOf h]

/-- The directories on the way to what is to be made at the end of some names are there. -/
def Reaches (r : Rendition) (directory : Place) (t : FileTree) (names : List String) : Prop :=
  ∀ front name, names = front ++ [name] → ∀ stage ∈ r.way directory front,
    t.at? stage = some .directory

/-- Only the last directory is missing, if it is. -/
theorem Reaches.createAlong {front : List String} {name : String}
    (h : r.Reaches directory t (front ++ [name])) (hfront : ∀ n ∈ front, IsName n) :
    t.createAlong (origin directory r.outputRoot) (parts r.outputRoot ++ (front ++ [name]))
      = t.createAlong (r.output directory ++ front) [name] := by
  rw [← List.append_assoc, createAlong_append (h front name rfl), destination_append,
    destination_names _ hfront]
  rfl

/-! ## One stop -/

theorem visit_directory (hentry : stop.entry = .directory) :
    r.visit directory t stop
      = ((t.ensureDirectories directory (joinAll r.outputRoot stop.names)).1.mapError .file,
          (t.ensureDirectories directory (joinAll r.outputRoot stop.names)).2) := by
  rw [visit, hentry]

theorem visit_directory_ok (hentry : stop.entry = .directory)
    (h : r.visit directory t stop = (.ok (), u)) :
    t.ensureDirectories directory (joinAll r.outputRoot stop.names) = (.ok (), u) := by
  rw [visit_directory hentry] at h
  rcases hresult : t.ensureDirectories directory (joinAll r.outputRoot stop.names) with ⟨_ | _, w⟩
  · rw [hresult] at h
    cases h
  · rw [hresult] at h
    obtain rfl : w = u := (Prod.mk.inj h).2
    rfl

theorem visit_directory_error {e : GeneratorError} (hentry : stop.entry = .directory)
    (h : r.visit directory t stop = (.error e, u)) :
    ∃ fault, e = .file fault ∧
      t.ensureDirectories directory (joinAll r.outputRoot stop.names) = (.error fault, u) := by
  rw [visit_directory hentry] at h
  rcases hresult : t.ensureDirectories directory (joinAll r.outputRoot stop.names)
    with ⟨fault | _, w⟩
  · rw [hresult] at h
    obtain ⟨herror, rfl⟩ := Prod.mk.inj h
    exact ⟨fault, (Except.error.inj herror).symm, rfl⟩
  · rw [hresult] at h
    cases h

theorem visit_plain {content : List UInt8} (hentry : stop.entry = .file content)
    (h : ¬stop.Renders) : r.visit directory t stop = (.ok (), t) := by
  have hcondition : (!isTemplate stop.path || isPartial stop.fileName) = true := by
    rw [Stop.Renders, not_and_or, Bool.not_eq_true, Bool.not_eq_false] at h
    rcases h with h | h
    · rw [h, Bool.not_false, Bool.true_or]
    · rw [h, Bool.or_true]
  simp only [visit, hentry, hcondition, if_true]

theorem visit_template {content : List UInt8} (hentry : stop.entry = .file content)
    (h : stop.Renders) :
    r.visit directory t stop =
      match r.library.render r.context (slashed stop.names) with
      | none => (.error (.render (slashed stop.names)), t)
      | some text =>
          match t.writeText directory (r.target stop.names) text with
          | .ok t => (.ok (), t)
          | .error fault => (.error (.file fault), t) := by
  have hcondition : ¬(!isTemplate stop.path || isPartial stop.fileName) = true := by
    simp [h.1, h.2]
  unfold visit
  rw [hentry]
  exact if_neg hcondition

/-! ## Writing what is made of a template -/

/-- **A rendered template is written** into a directory that is there, where no directory is, unless
its name would be a dot. -/
theorem writeText_target {path text : String} (houtput : r.outputRoot ≠ "")
    (hnamed : stop.Named path) {front : List String} {stem : String}
    (hnames : stop.names = front ++ [templateNameOf stem]) (hstem : stem ≠ "")
    (hdots : stem.toList.count '.' ≤ 1) :
    t.writeText directory (r.target stop.names) text = .ok u ↔
      r.Reaches directory t stop.names ∧ stem ≠ "." ∧
        t.at? (r.output directory ++ (front ++ [stem])) ≠ some .directory ∧
        t.refuses (r.output directory ++ (front ++ [stem])) = false ∧
        u = t.put (r.output directory ++ (front ++ [stem])) (.file (Text.Utf8.encode text)) := by
  have hfront := hnamed.isName_front hnames
  have htemplate := hnamed.isName_last hnames
  have hpart : IsPart stem := htemplate.isPart_of_templateNameOf hstem
  rw [hnames, target_templateNameOf r front hstem, writeText_eq_ok_iff]
  by_cases hdot : stem = "."
  · have hpromises : promisesDirectory (joinAll r.outputRoot (front ++ [stem])) = true := by
      rw [joinAll_concat, hdot]
      exact promisesDirectory_join_dot
        (joinAll_ne_empty houtput fun n hn => (hfront n hn).isPart)
    simp [hdot, hdot ▸ hpromises]
  · have hname := hpart.isName_of_dots hdot hdots
    have hpromises : promisesDirectory (joinAll r.outputRoot (front ++ [stem])) = false := by
      rw [joinAll_concat]
      exact promisesDirectory_join _ hname
    have hreaches : r.Reaches directory t (front ++ [templateNameOf stem]) ↔
        ∀ stage ∈ r.way directory front, t.at? stage = some .directory := by
      constructor
      · exact fun h => h front _ rfl
      · intro h front' name hsplit
        rwa [← (List.append_inj' hsplit rfl).1]
    simp [locate_joinAll hfront hname, hreaches, hpromises, hdot, and_assoc]

/-- The start of a walk is no template that something could be made of. -/
theorem writeText_target_nil (houtput : r.outputRoot ≠ "") (text : String) :
    t.writeText directory (r.target []) text ≠ .ok u := by
  intro h
  obtain ⟨-, -, hpromises, -⟩ := writeText_eq_ok_iff.1 h
  rw [show r.target [] = join r.outputRoot "" from rfl, promisesDirectory_join_empty houtput]
    at hpromises
  cases hpromises

/-- What a stop at a template that succeeds has written. -/
theorem visit_template_ok {path : String} {content : List UInt8} (houtput : r.outputRoot ≠ "")
    (hnamed : stop.Named path) (hentry : stop.entry = .file content) (hrenders : stop.Renders)
    (h : r.visit directory t stop = (.ok (), u)) :
    ∃ front stem text, stop.names = front ++ [templateNameOf stem] ∧ stem ≠ "" ∧
      stem.toList.count '.' ≤ 1 ∧
      r.library.render r.context (slashed stop.names) = some text ∧
      t.writeText directory (r.target stop.names) text = .ok u := by
  rw [visit_template hentry hrenders] at h
  split at h
  · cases h
  · rename_i text hrender
    split at h
    · rename_i w hwrite
      obtain rfl : w = u := (Prod.mk.inj h).2
      rcases List.eq_nil_or_concat' stop.names with hnil | ⟨front, name, hnames⟩
      · rw [hnil] at hwrite
        exact absurd hwrite (writeText_target_nil houtput text)
      · obtain ⟨stem, rfl, hstem, hdots⟩ := (hnamed.renders_iff hnames).1 hrenders
        exact ⟨front, stem, text, hnames, hstem, hdots, hrender, hwrite⟩
    · cases h

/-! ## What a stop does -/

/-- The first stop makes the output directory and what is missing on the way there. -/
theorem differs_of_start (ht : t.WellFormed) (hdirectory : t.at? directory = some .directory)
    (h : t.ensureDirectories directory r.outputRoot = (.ok (), u)) :
    t.Differs u (r.Makes directory [] .directory) := by
  have hcreated : t.createAlong (origin directory r.outputRoot) (parts r.outputRoot ++ [])
      = (.ok (), u) := by
    rwa [List.append_nil]
  have houtput : u.at? (r.output directory) = some .directory := by
    have hthere := (ht.ensureDirectories hdirectory r.outputRoot).2
    rw [h] at hthere
    exact hthere rfl
  have hdiffers := createAlong_ok hcreated
  refine hdiffers.congr ?_ ?_
  · intro place entry hmade
    cases hmade with
    | output _ _ hstage => exact hdiffers.holds _ _ ⟨hstage, rfl⟩
    | directory => rwa [List.append_nil]
    | file _ hfile => cases hfile
  · rintro place entry ⟨hstage, rfl⟩
    exact Or.inl (.output rfl rfl hstage)

/-- A stop further down asks for one directory in one that is there. -/
theorem ensureDirectories_below {path : String} (hnamed : stop.Named path) {front : List String}
    {name : String} (hnames : stop.names = front ++ [name])
    (hreaches : r.Reaches directory t stop.names) :
    t.ensureDirectories directory (joinAll r.outputRoot stop.names)
      = t.createAlong (r.output directory ++ front) [name] := by
  rw [ensureDirectories_joinAll hnamed.isName]
  have hfront := hnamed.isName_front hnames
  rw [hnames] at hreaches ⊢
  exact hreaches.createAlong hfront

theorem differs_of_createAlong {front : List String} {name : String} (hname : IsName name)
    (h : t.createAlong (r.output directory ++ front) [name] = (.ok (), u)) :
    t.Differs u (r.Makes directory (front ++ [name]) .directory) := by
  have hdiffers := createAlong_ok h
  rw [stages_singleton _ hname, List.append_assoc] at hdiffers
  refine hdiffers.congr ?_ ?_
  · intro place entry hmade
    cases hmade with
    | output hnil => cases (List.append_eq_nil_iff.1 hnil).2
    | directory => exact hdiffers.holds _ _ ⟨List.mem_singleton_self _, rfl⟩
    | file _ hfile => cases hfile
  · rintro place entry ⟨hplace, rfl⟩
    rw [List.mem_singleton.1 hplace]
    exact Or.inl (.directory rfl)

/-- A template that is rendered makes one file. -/
theorem differs_of_put {names front : List String} {stem text : String} {content : List UInt8}
    (hnames : names = front ++ [templateNameOf stem]) (hstem : stem ≠ "")
    (hdots : stem.toList.count '.' ≤ 1)
    (hrender : r.library.render r.context (slashed names) = some text)
    (hat : t.at? (r.output directory ++ (front ++ [stem])) ≠ some .directory) :
    t.Differs (t.put (r.output directory ++ (front ++ [stem])) (.file (Text.Utf8.encode text)))
      (r.Makes directory names (.file content)) := by
  have hne : r.output directory ++ (front ++ [stem]) ≠ [] := by simp
  have hfits : ∀ old, t.at? (r.output directory ++ (front ++ [stem])) = some old →
      (old = .directory ↔ Entry.file (Text.Utf8.encode text) = .directory) := by
    intro old hold
    have hfile : old ≠ .directory := fun he => hat (he ▸ hold)
    simp [hfile]
  have hdiffers := differs_put hne hfits
  refine hdiffers.congr ?_ ?_
  · intro place entry hmade
    refine hdiffers.holds place entry ?_
    cases hmade with
    | output _ hfile => cases hfile
    | directory hfile => cases hfile
    | @file front' stem' text' _ hnames' _ _ _ hrender' =>
        obtain ⟨rfl, hlast⟩ := List.append_inj' (hnames.symm.trans hnames') rfl
        obtain rfl := templateNameOf_injective (List.singleton_inj.1 hlast)
        obtain rfl : text = text' := Option.some.inj (hrender.symm.trans hrender')
        exact ⟨rfl, rfl⟩
  · rintro place entry ⟨rfl, rfl⟩
    exact Or.inl (.file hnames rfl hstem hdots hrender)

/-- Of a file that is no template, or a partial, nothing is made. -/
theorem not_makes_of_plain {path : String} (hnamed : stop.Named path) (h : ¬stop.Renders)
    {content : List UInt8} {place : Place} {entry : Entry} :
    ¬r.Makes directory stop.names (.file content) place entry := by
  intro hmade
  cases hmade with
  | output _ hfile => cases hfile
  | directory hfile => cases hfile
  | @file front stem _ _ hnames _ hstem hdots =>
      exact h ((hnamed.renders_iff hnames).2 ⟨stem, rfl, hstem, hdots⟩)

/-- **A stop that succeeds makes what is asked for, and nothing else.** -/
theorem visit_ok {path : String} (houtput : r.outputRoot ≠ "") (hnamed : stop.Named path)
    (hstart : stop.names = [] → t.WellFormed ∧ t.at? directory = some .directory)
    (hreaches : r.Reaches directory t stop.names)
    (h : r.visit directory t stop = (.ok (), u)) :
    t.Differs u (r.Makes directory stop.names stop.entry) := by
  cases hentry : stop.entry with
  | directory =>
      have hcreated := visit_directory_ok hentry h
      rcases List.eq_nil_or_concat' stop.names with hnil | ⟨front, name, hnames⟩
      · obtain ⟨ht, hdirectory⟩ := hstart hnil
        rw [hnil] at hcreated ⊢
        exact differs_of_start ht hdirectory hcreated
      · have hname := hnamed.isName_last hnames
        rw [ensureDirectories_below hnamed hnames hreaches] at hcreated
        rw [hnames]
        exact differs_of_createAlong hname hcreated
  | file content =>
      by_cases hrenders : stop.Renders
      · obtain ⟨front, stem, text, hnames, hstem, hdots, hrender, hwrite⟩ :=
          visit_template_ok houtput hnamed hentry hrenders h
        obtain ⟨-, -, hat, -, rfl⟩ :=
          (writeText_target houtput hnamed hnames hstem hdots).1 hwrite
        exact differs_of_put hnames hstem hdots hrender hat
      · rw [visit_plain hentry hrenders] at h
        obtain rfl : t = u := (Prod.mk.inj h).2
        exact (Differs.refl t).congr
          (fun _ _ hmade => absurd hmade (not_makes_of_plain hnamed hrenders))
          fun _ _ hmade => hmade.elim

/-! ## Stops that fail -/

/-- Why a stop fails in a tree: its directory cannot be created, its template cannot be rendered, or
what is rendered cannot be written. -/
inductive Fails (r : Rendition) (directory : Place) (t : FileTree) (stop : Stop) :
    GeneratorError → Prop
  | creating {fault : FileFault} (hentry : stop.entry = .directory)
      (hcreate : (t.ensureDirectories directory (joinAll r.outputRoot stop.names)).1
        = .error fault) : Fails r directory t stop (.file fault)
  | rendering {content : List UInt8} (hentry : stop.entry = .file content)
      (hrenders : stop.Renders)
      (hrender : r.library.render r.context (slashed stop.names) = none) :
      Fails r directory t stop (.render (slashed stop.names))
  | writing {content : List UInt8} {text : String} {fault : FileFault}
      (hentry : stop.entry = .file content) (hrenders : stop.Renders)
      (hrender : r.library.render r.context (slashed stop.names) = some text)
      (hwrite : t.writeText directory (r.target stop.names) text = .error fault) :
      Fails r directory t stop (.file fault)

theorem visit_error_iff {e : GeneratorError} :
    (r.visit directory t stop).1 = .error e ↔ r.Fails directory t stop e := by
  constructor
  · intro h
    cases hentry : stop.entry with
    | directory =>
        obtain ⟨fault, rfl, hcreate⟩ := visit_directory_error hentry (Prod.ext h rfl)
        exact .creating hentry (congrArg Prod.fst hcreate)
    | file content =>
        by_cases hrenders : stop.Renders
        · rw [visit_template hentry hrenders] at h
          split at h
          · rename_i hrender
            cases h
            exact .rendering hentry hrenders hrender
          · rename_i text hrender
            split at h
            · cases h
            · rename_i fault hwrite
              cases h
              exact .writing hentry hrenders hrender hwrite
        · rw [visit_plain hentry hrenders] at h
          cases h
  · intro h
    cases h with
    | creating hentry hcreate =>
        rw [visit_directory hentry, hcreate]
        rfl
    | rendering hentry hrenders hrender => rw [visit_template hentry hrenders, hrender]
    | writing hentry hrenders hrender hwrite =>
        rw [visit_template hentry hrenders, hrender]
        simp only [hwrite]

/-- **A stop that fails makes nothing**, except that on the way to the output directory some
directories can be made before one cannot. -/
theorem visit_error {path : String} {e : GeneratorError} (hnamed : stop.Named path)
    (hstart : stop.names = [] → stop.entry ≠ .directory)
    (hreaches : r.Reaches directory t stop.names)
    (h : r.visit directory t stop = (.error e, u)) : u = t := by
  cases hentry : stop.entry with
  | directory =>
      obtain ⟨fault, -, hcreate⟩ := visit_directory_error hentry h
      rcases List.eq_nil_or_concat' stop.names with hnil | ⟨front, name, hnames⟩
      · exact absurd hentry (hstart hnil)
      · rw [ensureDirectories_below hnamed hnames hreaches] at hcreate
        exact createAlong_singleton_error (hnamed.isName_last hnames) hcreate
  | file content =>
      by_cases hrenders : stop.Renders
      · rw [visit_template hentry hrenders] at h
        split at h
        · exact (Prod.mk.inj h).2.symm
        · split at h
          · cases h
          · exact (Prod.mk.inj h).2.symm
      · rw [visit_plain hentry hrenders] at h
        cases h

/-! ## Stops that are made again -/

/-- **A stop changes nothing where all that it asks for is there.** -/
theorem visit_again {path : String} (houtput : r.outputRoot ≠ "") (hnamed : stop.Named path)
    (hrefuses : v.refuses = t.refuses)
    (hholds : ∀ place entry, r.Makes directory stop.names stop.entry place entry →
      v.at? place = some entry)
    (hreaches : r.Reaches directory v stop.names)
    (h : r.visit directory t stop = (.ok (), u)) : r.visit directory v stop = (.ok (), v) := by
  cases hentry : stop.entry with
  | directory =>
      have hthere : ∀ stage ∈ r.way directory stop.names, v.at? stage = some .directory := by
        intro stage hstage
        rcases List.eq_nil_or_concat' stop.names with hnil | ⟨front, name, hnames⟩
        · rw [hnil] at hstage
          exact hholds stage _ (.output hnil hentry hstage)
        · rw [hnames, way_append r directory front (hnamed.isName_front hnames),
            stages_singleton _ (hnamed.isName_last hnames), List.append_assoc, ← hnames,
            List.mem_append, List.mem_singleton] at hstage
          rcases hstage with hstage | rfl
          · exact hreaches front name hnames stage hstage
          · exact hholds _ _ (.directory hentry)
      rw [visit_directory hentry, ensureDirectories_joinAll hnamed.isName,
        createAlong_eq_self hthere]
      rfl
  | file content =>
      by_cases hrenders : stop.Renders
      · obtain ⟨front, stem, text, hnames, hstem, hdots, hrender, hwrite⟩ :=
          visit_template_ok houtput hnamed hentry hrenders h
        obtain ⟨-, hdot, -, hallowed, -⟩ :=
          (writeText_target houtput hnamed hnames hstem hdots).1 hwrite
        have hfile := hholds _ _ (.file hnames hentry hstem hdots hrender)
        have hagain : v.writeText directory (r.target stop.names) text = .ok v := by
          refine (writeText_target houtput hnamed hnames hstem hdots).2
            ⟨hreaches, hdot, ?_, ?_, ?_⟩
          · rw [hfile]
            exact nofun
          · rw [hrefuses, hallowed]
          · exact (put_eq_self (by simp) hfile).symm
        rw [visit_template hentry hrenders, hrender]
        simp only [hagain]
      · rw [visit_plain hentry hrenders]

/-! ## Stops whether they fail or not -/

/-- What a stop can do to a tree, whether it succeeds or fails: it creates directories along the way
of its output, or writes a file into a directory that is there, where no directory is, or does
nothing. -/
inductive Touches (r : Rendition) (directory : Place) (t : FileTree) (stop : Stop) : FileTree → Prop
  | created (hentry : stop.entry = .directory) :
      Touches r directory t stop
        (t.createAlong (origin directory r.outputRoot) (parts r.outputRoot ++ stop.names)).2
  | written {front : List String} {stem : String} {content : List UInt8} (hname : IsName stem)
      (hdots : stem.toList.count '.' ≤ 1) (hfront : ∀ n ∈ front, IsName n)
      (hway : ∀ stage ∈ r.way directory front, t.at? stage = some .directory)
      (hat : t.at? (r.output directory ++ (front ++ [stem])) ≠ some .directory) :
      Touches r directory t stop
        (t.put (r.output directory ++ (front ++ [stem])) (.file content))
  | nothing : Touches r directory t stop t

theorem visit_touches {path : String} (houtput : r.outputRoot ≠ "") (hnamed : stop.Named path) :
    r.Touches directory t stop (r.visit directory t stop).2 := by
  cases hentry : stop.entry with
  | directory =>
      rw [visit_directory hentry, ensureDirectories_joinAll hnamed.isName]
      exact .created hentry
  | file content =>
      by_cases hrenders : stop.Renders
      · rw [visit_template hentry hrenders]
        split
        · exact .nothing
        · rename_i text _
          split
          · rename_i u hwrite
            rcases List.eq_nil_or_concat' stop.names with hnil | ⟨front, name, hnames⟩
            · rw [hnil] at hwrite
              exact absurd hwrite (writeText_target_nil houtput text)
            · obtain ⟨stem, rfl, hstem, hdots⟩ := (hnamed.renders_iff hnames).1 hrenders
              obtain ⟨hreaches, hdot, hat, -, rfl⟩ :=
                (writeText_target houtput hnamed hnames hstem hdots).1 hwrite
              have hpart := (hnamed.isName_last hnames).isPart_of_templateNameOf hstem
              exact .written (hpart.isName_of_dots hdot hdots) hdots (hnamed.isName_front hnames)
                (hreaches front _ hnames) hat
          · exact .nothing
      · rw [visit_plain hentry hrenders]
        exact .nothing

/-- **A stop keeps a tree well-formed.** -/
theorem Touches.wellFormed (ht : t.WellFormed) (hdirectory : t.at? directory = some .directory)
    (hnames : ∀ name ∈ stop.names, IsName name) (h : r.Touches directory t stop u) :
    u.WellFormed := by
  have hparts : ∀ names : List String, (∀ n ∈ names, IsName n) →
      ∀ p ∈ parts r.outputRoot ++ names, IsPart p := fun names h p hp =>
    (List.mem_append.1 hp).elim isPart_of_mem_parts fun hp => (h p hp).isPart
  have horigin := at?_origin hdirectory r.outputRoot
  cases h with
  | created => exact (ht.createAlong horigin (hparts _ hnames)).1
  | @written front stem content hname hdots hfront hway hat =>
      have hparent : t.at? (r.output directory ++ front) = some .directory := by
        have hthere := ht.at?_destination horigin (hparts _ hfront) hway
        rwa [destination_append, destination_names _ hfront] at hthere
      rw [← List.append_assoc] at hat ⊢
      exact ht.put hparent hname fun hthere => absurd hthere hat
  | nothing => exact ht

/-- A directory stays one. -/
theorem Touches.at?_directory {place : Place} (hplace : t.at? place = some .directory)
    (h : r.Touches directory t stop u) : u.at? place = some .directory := by
  cases h with
  | created =>
      obtain ⟨made, -, hdiffers⟩ := t.createAlong_made (origin directory r.outputRoot)
        (parts r.outputRoot ++ stop.names)
      exact hdiffers.directory hplace
  | @written front stem content hname hdots hfront hway hat =>
      rw [at?_put (by simp), if_neg ?_, hplace]
      rintro rfl
      exact hat hplace
  | nothing => exact hplace

end Rendition

end ClientGen
