import ClientGen.Codec.Stub
import ClientGen.Proofs.Tours

/-!
# The output mirrors the templates

A run goes through the stops of a walk and makes what they ask for.  The directories that a stop
needs were made for stops before it, and no file is made twice, so the differences that the stops
make add up.

* `Rendition.inTurn_differs` — after some stops, what these ask for is there and nothing else has
  changed.
* `Generation.generate_eq_inTurn` — a generation makes the stops of a walk in turn.
* `Generation.meets_again` — what a generation after a successful one meets.
* `Generation.generate_mirrors` — a generation that succeeds leaves an image of the templates, and
  does nothing when it is repeated.
-/

namespace ClientGen

open ClientGen.Path Place FileTree

variable {t u v : FileTree} {directory root : Place} {path : String}

namespace Rendition

variable {r : Rendition} {meets : List String → Option Entry} {stops before after : List Stop}
  {stop : Stop}

/-! ## What some stops make -/

/-- What is to be made of all that some stops meet. -/
def MakesAll (r : Rendition) (directory : Place) (stops : List Stop) (place : Place)
    (entry : Entry) : Prop :=
  ∃ stop ∈ stops, r.Makes directory stop.names stop.entry place entry

/-- The directories on the way are there after the stops at the directories that they are made
of. -/
theorem reaches_of_holds {names : List String} (hnames : ∀ name ∈ names, IsName name)
    (hfronts : ∀ front rest, names = front ++ rest → rest ≠ [] →
      Stop.under path front .directory ∈ stops)
    (hholds : ∀ place entry, r.MakesAll directory stops place entry → u.at? place = some entry) :
    r.Reaches directory u names := by
  intro front name hsplit stage hstage
  have hfront : ∀ n ∈ front, IsName n := fun n hn =>
    hnames n (hsplit ▸ List.mem_append_left _ hn)
  have hsplits : ∀ first rest, front = first ++ rest →
      Stop.under path first .directory ∈ stops := by
    rintro first rest rfl
    refine hfronts first (rest ++ [name]) ?_ ?_
    · rw [hsplit, List.append_assoc]
    · exact List.append_ne_nil_of_right_ne_nil _ (List.cons_ne_nil _ _)
  rw [← List.nil_append front, way_append r directory [] nofun, List.append_nil,
    List.mem_append] at hstage
  rcases hstage with hstage | hstage
  · exact hholds _ _ ⟨_, hsplits [] front rfl, .output rfl rfl hstage⟩
  · obtain ⟨first, n, rest, rfl, rfl⟩ := (mem_stages_names hfront).1 hstage
    have hmem := hsplits (first ++ [n]) rest (by simp)
    exact hholds _ _ ⟨_, hmem, .directory rfl⟩

theorem reaches_of_walks (hwalks : Walks meets path (before ++ stop :: after))
    (hholds : ∀ place entry, r.MakesAll directory before place entry →
      u.at? place = some entry) : r.Reaches directory u stop.names := by
  have hstop : stop ∈ before ++ stop :: after :=
    List.mem_append_right _ (List.mem_cons_self ..)
  exact reaches_of_holds (hwalks.named hstop).isName
    (fun _ _ hsplit hrest => hwalks.directory_before hsplit hrest) hholds

/-- **After some stops of a walk, what these ask for is there, and nothing else has changed.** -/
theorem inTurn_differs (houtput : r.outputRoot ≠ "") (ht : t.WellFormed)
    (hdirectory : t.at? directory = some .directory)
    (hwalks : Walks meets path (before ++ after))
    (h : inTurn (r.visit directory) t before = (.ok (), u)) :
    t.Differs u (r.MakesAll directory before) := by
  induction before using List.reverseRecOn generalizing after u with
  | nil =>
      obtain rfl : t = u := (Prod.mk.inj h).2
      refine (Differs.refl t).congr ?_ fun _ _ hmade => hmade.elim
      rintro place entry ⟨stop, hstop, -⟩
      cases hstop
  | append_singleton before stop ih =>
      rw [List.append_assoc, List.singleton_append] at hwalks
      obtain ⟨v, w, hbefore, hvisit, hnone⟩ := inTurn_append_ok h
      obtain rfl : w = u := (Prod.mk.inj hnone).2
      have hsofar := ih hwalks hbefore
      have hnamed := hwalks.named (List.mem_append_right _ (List.mem_cons_self ..))
      have hstart : stop.names = [] → v.WellFormed ∧ v.at? directory = some .directory := by
        intro hnil
        rw [hwalks.eq_nil_of_names_nil hnil] at hbefore
        obtain rfl : t = v := (Prod.mk.inj hbefore).2
        exact ⟨ht, hdirectory⟩
      have hreaches := reaches_of_walks hwalks hsofar.holds
      have hstep := visit_ok houtput hnamed hstart hreaches hvisit
      have hfiles : ∀ place content content',
          r.MakesAll directory before place (.file content) →
            ¬r.Makes directory stop.names stop.entry place (.file content') := by
        rintro place content content' ⟨earlier, hearlier, hmade⟩ hmade'
        exact hwalks.names_ne hearlier (hmade.names_unique hmade')
      have hboth := hsofar.trans hstep hfiles
      refine hboth.congr ?_ ?_
      · rintro place entry ⟨other, hother, hmade⟩
        refine hboth.holds place entry ?_
        rcases List.mem_append.1 hother with hother | hother
        · exact Or.inl ⟨other, hother, hmade⟩
        · rw [List.mem_singleton.1 hother] at hmade
          exact Or.inr hmade
      · rintro place entry (⟨other, hother, hmade⟩ | hmade)
        · exact Or.inl ⟨other, List.mem_append_left _ hother, hmade⟩
        · exact Or.inl ⟨stop, List.mem_append_right _ (List.mem_singleton_self _), hmade⟩

/-- What a walk that meets certain things makes of them. -/
theorem inTurn_differs_of_meets (houtput : r.outputRoot ≠ "") (ht : t.WellFormed)
    (hdirectory : t.at? directory = some .directory) (hwalks : Walks meets path stops)
    {met : List String → Entry → Prop} (hmeets : ∀ {names entry},
      meets names = some entry ↔ met names entry)
    (h : inTurn (r.visit directory) t stops = (.ok (), u)) :
    t.Differs u fun place entry => ∃ names found, met names found ∧
      r.Makes directory names found place entry := by
  have hwhole : Walks meets path (stops ++ []) := by rwa [List.append_nil]
  have hall := inTurn_differs houtput ht hdirectory hwhole h
  refine hall.congr ?_ ?_
  · rintro place entry ⟨names, found, hmet, hmade⟩
    exact hall.holds place entry
      ⟨Stop.under path names found, (hwalks.mem _).2 ⟨rfl, hmeets.2 hmet⟩, hmade⟩
  · rintro place entry ⟨stop, hstop, hmade⟩
    exact Or.inl ⟨stop.names, stop.entry, hmeets.1 ((hwalks.mem stop).1 hstop).2, hmade⟩

/-- What is on the way to the output directory is made of the start. -/
theorem made_of_way (hat : t.at? root = some .directory) {stage : Place}
    (hstage : stage ∈ r.way directory []) :
    ∃ names met, r.Meets directory root t names met ∧
      r.Makes directory names met stage .directory :=
  ⟨[], .directory, .there (by rwa [List.append_nil]), .output rfl rfl hstage⟩

/-- A run that succeeds has rendered each template that something is made of. -/
theorem exists_render (houtput : r.outputRoot ≠ "") (hwalks : Walks meets path stops)
    (h : inTurn (r.visit directory) t stops = (.ok (), u)) (hstop : stop ∈ stops)
    {content : List UInt8} (hentry : stop.entry = .file content) (hrenders : stop.Renders) :
    ∃ text, r.library.render r.context (slashed stop.names) = some text := by
  have hnamed := hwalks.named hstop
  obtain ⟨before, after, rfl⟩ := List.append_of_mem hstop
  obtain ⟨v, w, -, hvisit, -⟩ := inTurn_append_ok h
  obtain ⟨_, _, text, -, -, -, hrender, -⟩ :=
    visit_template_ok houtput hnamed hentry hrenders hvisit
  exact ⟨text, hrender⟩

/-- **A run that was successful has nothing left to make.** -/
theorem inTurn_again (houtput : r.outputRoot ≠ "") (ht : t.WellFormed)
    (hdirectory : t.at? directory = some .directory) (hwalks : Walks meets path stops)
    (h : inTurn (r.visit directory) t stops = (.ok (), u)) :
    inTurn (r.visit directory) u stops = (.ok (), u) := by
  have hwhole : Walks meets path (stops ++ []) := by rwa [List.append_nil]
  have hall := inTurn_differs houtput ht hdirectory hwhole h
  refine inTurn_eq_self fun stop hstop => ?_
  obtain ⟨before, after, rfl⟩ := List.append_of_mem hstop
  obtain ⟨v, w, hbefore, hvisit, -⟩ := inTurn_append_ok h
  have hsofar := inTurn_differs houtput ht hdirectory hwalks hbefore
  refine visit_again houtput (hwalks.named hstop) (hall.refuses.trans hsofar.refuses.symm)
    (fun place entry hmade => hall.holds place entry ⟨stop, hstop, hmade⟩) ?_ hvisit
  exact reaches_of_walks hwalks fun place entry ⟨earlier, hearlier, hmade⟩ =>
    hall.holds place entry ⟨earlier, List.mem_append_left _ hearlier, hmade⟩

theorem inTurn_wellFormed (houtput : r.outputRoot ≠ "") (ht : t.WellFormed)
    (hdirectory : t.at? directory = some .directory) (hwalks : Walks meets path stops) :
    (inTurn (r.visit directory) t stops).2.WellFormed ∧
      (inTurn (r.visit directory) t stops).2.at? directory = some .directory := by
  refine inTurn_keeps (P := fun v => v.WellFormed ∧ v.at? directory = some .directory)
    ⟨ht, hdirectory⟩ fun stop hstop v ⟨hv, hthere⟩ => ?_
  have hnamed := hwalks.named hstop
  have htouches : r.Touches directory v stop _ := visit_touches houtput hnamed
  exact ⟨htouches.wellFormed hv hthere hnamed.isName, htouches.at?_directory hthere⟩

end Rendition

namespace Generation

variable {r : Generation} {stops : List Stop} {rendition : Rendition}

/-! ## Generation -/

theorem prepare_eq_ok_iff :
    r.prepare t directory = .ok rendition ↔
      ∃ stops library context, t.stops directory r.templateRoot = .ok stops ∧
        libraryOf stops = .ok library ∧ r.codec.contextOf r.api = .ok context ∧
        rendition = { library, context, outputRoot := r.outputRoot } := by
  unfold prepare
  constructor
  · intro h
    cases hstops : t.stops directory r.templateRoot with
    | error e =>
        rw [hstops] at h
        cases h
    | ok stops =>
        simp only [hstops, bind, Except.bind] at h
        cases hlibrary : libraryOf stops with
        | error e =>
            rw [hlibrary] at h
            cases h
        | ok library =>
            simp only [hlibrary] at h
            cases hcontext : r.codec.contextOf r.api with
            | error e =>
                rw [hcontext] at h
                cases h
            | ok context =>
                rw [hcontext] at h
                exact ⟨stops, library, context, rfl, hlibrary, rfl, (Except.ok.inj h).symm⟩
  · rintro ⟨stops, library, context, hstops, hlibrary, hcontext, rfl⟩
    simp only [hstops, hlibrary, hcontext, bind, Except.bind]
    rfl

theorem outputRoot_ne_empty (r : Generation) : r.outputRoot ≠ "" := by
  rw [outputRoot]
  split
  · decide
  · rename_i h
    simpa using h

theorem outputRoot_of_prepare (h : r.prepare t directory = .ok rendition) :
    rendition.outputRoot = r.outputRoot := by
  obtain ⟨_, _, _, -, -, -, rfl⟩ := prepare_eq_ok_iff.1 h
  rfl

theorem outputRoot_ne_empty_of_prepare (h : r.prepare t directory = .ok rendition) :
    rendition.outputRoot ≠ "" := by
  rw [outputRoot_of_prepare h]
  exact r.outputRoot_ne_empty

/-- The place of the directory to generate into. -/
def output (r : Generation) (directory : Place) : Place :=
  destination (origin directory r.outputRoot) (parts r.outputRoot)

/-- The places that the path of the output directory leads through. -/
def way (r : Generation) (directory : Place) : List Place :=
  stages (origin directory r.outputRoot) (parts r.outputRoot)

/-- The output directory and the templates are apart: neither is inside the other. -/
structure Apart (r : Generation) (directory root : Place) : Prop where
  output_outside : ¬root <+: r.output directory
  root_outside : ¬r.output directory <+: root

/-- Nothing below the output is a place of a template. -/
theorem Apart.outside (h : r.Apart directory root)
    (hprepare : r.prepare t directory = .ok rendition) : rendition.Outside directory root := by
  intro names names' heq
  rw [Rendition.output, outputRoot_of_prepare hprepare] at heq
  have houtput : r.output directory <+: root ++ names' := ⟨names, heq⟩
  rcases List.prefix_or_prefix_of_prefix houtput ⟨names', rfl⟩ with hprefix | hprefix
  · exact h.root_outside hprefix
  · exact h.output_outside hprefix

theorem way_of_prepare (h : r.prepare t directory = .ok rendition) :
    rendition.way directory [] = r.way directory := by
  rw [Rendition.way, outputRoot_of_prepare h, List.append_nil]
  rfl

/-- Once everything is prepared the templates are walked through. -/
theorem generate_of_prepare (h : r.prepare t directory = .ok rendition) :
    r.generate t directory = rendition.renderTree directory t r.templateRoot := by
  unfold generate
  rw [h]

/-- **Once everything is prepared, the stops of a walk are made in turn.** -/
theorem generate_eq_inTurn (ht : t.WellFormed) (hdirectory : t.at? directory = some .directory)
    (hroot : t.locate directory r.templateRoot = .ok root) (hapart : r.Apart directory root)
    (hprepare : r.prepare t directory = .ok rendition) :
    ∃ stops, Walks (rendition.view directory root t) r.templateRoot stops ∧
      r.generate t directory = inTurn (rendition.visit directory) t stops := by
  obtain ⟨_, _, _, hstops, -⟩ := prepare_eq_ok_iff.1 hprepare
  obtain ⟨root', start, hstart, -⟩ := stops_eq_ok_iff.1 hstops
  obtain rfl : root = root' := Except.ok.inj (hroot.symm.trans (start_eq_ok_iff.1 hstart).1)
  refine ⟨_, Rendition.walks_stops ht hdirectory hstart, ?_⟩
  rw [generate_of_prepare hprepare]
  exact Rendition.renderTree_eq_inTurn ht hdirectory hstart
    (outputRoot_ne_empty_of_prepare hprepare) (hapart.outside hprepare)

/-- Where the first stop succeeds the output directory is made. -/
theorem ensureDirectories_of_inTurn
    (hwalks : Walks (rendition.view directory root t) path stops)
    (h : inTurn (rendition.visit directory) t stops = (.ok (), u))
    (hat : t.at? root = some .directory) :
    t.ensureDirectories directory rendition.outputRoot
      = (.ok (), rendition.opened directory t) := by
  have hstart : Stop.under path [] .directory ∈ stops := (hwalks.mem _).2 ⟨rfl, hat⟩
  obtain ⟨before, after, rfl⟩ := List.append_of_mem hstart
  obtain rfl := hwalks.eq_nil_of_names_nil rfl
  obtain ⟨v, w, hnone, hvisit, -⟩ := inTurn_append_ok h
  obtain rfl : t = v := (Prod.mk.inj hnone).2
  have hcreate := Rendition.visit_directory_ok rfl hvisit
  have hopened : rendition.opened directory t = w := congrArg Prod.snd hcreate
  rw [hopened]
  exact hcreate

/-! ## Generation once more -/

section Again

variable (hdiffers : t.Differs u fun place entry => ∃ names met,
    rendition.Meets directory root t names met ∧
      rendition.Makes directory names met place entry)
  (hapart : r.Apart directory root) (hprepare : r.prepare t directory = .ok rendition)

include hdiffers

/-- After a generation everything on the way to the output directory is there. -/
theorem at?_way (hat : t.at? root = some .directory) {stage : Place}
    (hstage : stage ∈ rendition.way directory []) : u.at? stage = some .directory :=
  hdiffers.holds _ _ (Rendition.made_of_way hat hstage)

theorem ensureDirectories_again (hat : t.at? root = some .directory) :
    u.ensureDirectories directory rendition.outputRoot
      = (.ok (), rendition.opened directory u) := by
  have hway : ∀ stage ∈ rendition.way directory [], u.at? stage = some .directory :=
    fun _ hstage => at?_way hdiffers hat hstage
  rw [Rendition.way_nil] at hway
  rw [Rendition.opened, ensureDirectories_eq_self hway]

theorem locate_again {path : String} {place : Place} (h : t.locate directory path = .ok place) :
    u.locate directory path = .ok place := by
  obtain ⟨hne, hstages, hplace⟩ := locate_eq_ok_iff.1 h
  exact locate_eq_ok_iff.2
    ⟨hne, fun stage hstage => hdiffers.directory (hstages stage hstage), hplace⟩

include hapart hprepare

/-- The templates after a generation are those from before, with the directories that are on the way
of the output path. -/
theorem at?_templates {names : List String} {entry : Entry} :
    u.at? (root ++ names) = some entry ↔
      t.at? (root ++ names) = some entry ∨
        t.at? root = some .directory ∧ root ++ names ∈ r.way directory ∧ entry = .directory := by
  have hway := way_of_prepare hprepare
  by_cases hstage : t.at? root = some .directory ∧ root ++ names ∈ r.way directory
  · obtain ⟨hat, hmem⟩ := hstage
    rw [at?_way hdiffers hat (hway ▸ hmem)]
    constructor
    · intro hentry
      exact Or.inr ⟨hat, hmem, (Option.some.inj hentry).symm⟩
    · rintro (hold | ⟨-, -, rfl⟩)
      · have hmade := Rendition.made_of_way (r := rendition) hat (hway ▸ hmem)
        rw [(hdiffers.fits _ _ hmade entry hold).2 rfl]
      · rfl
  · have hkept : u.at? (root ++ names) = t.at? (root ++ names) := by
      refine hdiffers.kept _ ?_
      rintro entry' ⟨names', met, hmeets, hmakes⟩
      generalize hplace : root ++ names = place at hmakes
      cases hmakes with
      | output hnil hentry hmem =>
          subst hnil hentry hplace
          cases hmeets with
          | there hat =>
              rw [List.append_nil] at hat
              exact hstage ⟨hat, hway ▸ hmem⟩
      | directory => exact hapart.outside hprepare _ _ hplace.symm
      | file => exact hapart.outside hprepare _ _ hplace.symm
    rw [hkept]
    exact ⟨Or.inl, fun h => h.resolve_right fun h => hstage ⟨h.1, h.2.1⟩⟩

/-- The same templates are loaded. -/
theorem prepare_again (ht : t.WellFormed) (hu : u.WellFormed)
    (hroot : t.locate directory r.templateRoot = .ok root) :
    r.prepare u directory = .ok rendition := by
  have htemplates : ∀ {names entry}, u.at? (root ++ names) = some entry ↔ _ :=
    at?_templates hdiffers hapart hprepare
  obtain ⟨stops, library, context, hstops, hlibrary, hcontext, hrendition⟩ :=
    prepare_eq_ok_iff.1 hprepare
  obtain ⟨root', start, hstart, rfl⟩ := stops_eq_ok_iff.1 hstops
  obtain ⟨hlocate, hnames, hpath, hat, hpromises⟩ := start_eq_ok_iff.1 hstart
  obtain rfl : root = root' := Except.ok.inj (hroot.symm.trans hlocate)
  have hat' : u.at? root = some start.entry := by
    rw [← List.append_nil root] at hat ⊢
    exact htemplates.2 (Or.inl hat)
  have hstart' : u.start directory r.templateRoot = .ok (root, start) :=
    start_eq_ok_iff.2 ⟨locate_again hdiffers hlocate, hnames, hpath, hat', hpromises⟩
  have hstops' := stops_eq_ok_iff.2 ⟨root, start, hstart', rfl⟩
  refine prepare_eq_ok_iff.2 ⟨_, library, context, hstops', ?_, hcontext, hrendition⟩
  rw [← hlibrary]
  have hwalks := walks_of_start ht hstart
  have hwalks' := walks_of_start hu hstart'
  refine libraryOf_congr hwalks'.ascending hwalks.ascending fun stop content hentry => ?_
  rw [hwalks.mem, hwalks'.mem, hentry]
  refine and_congr_right fun _ => htemplates.trans ?_
  simp

/-- **The next generation meets the same**, unless what is listed at the start has changed. -/
theorem meets_again (ht : t.WellFormed) (hdirectory : t.at? directory = some .directory)
    (hcreate : t.at? root = some .directory →
      t.ensureDirectories directory rendition.outputRoot
        = (.ok (), rendition.opened directory t))
    (hlisted : ∀ name, root ++ [name] ∈ r.way directory → t.at? (root ++ [name]) ≠ none)
    {names : List String} {entry : Entry} :
    rendition.Meets directory root u names entry ↔
      rendition.Meets directory root t names entry := by
  have htemplates : ∀ {names entry}, u.at? (root ++ names) = some entry ↔ _ :=
    at?_templates hdiffers hapart hprepare
  have hway := way_of_prepare hprepare
  constructor
  · intro hmeets
    cases hmeets with
    | there hat =>
        rcases htemplates.1 hat with hold | ⟨hdir, hstage, rfl⟩
        · exact .there hold
        · cases names with
          | nil => exact .there (by rwa [List.append_nil])
          | cons name rest =>
              rw [← hway] at hstage
              exact .added (Rendition.first_of_way ht hdirectory (hcreate hdir) hstage
                fun hfirst => hlisted name (hway ▸ hfirst)) hstage
    | @added name rest hfound hstage =>
        obtain ⟨found, hfound⟩ := Option.ne_none_iff_exists'.1 hfound
        refine .added ?_ hstage
        rcases htemplates.1 hfound with hold | ⟨-, hnew, -⟩
        · simp [hold]
        · exact hlisted name hnew
  · intro hmeets
    cases hmeets with
    | there hat => exact .there (htemplates.2 (Or.inl hat))
    | added hfound hstage =>
        obtain ⟨found, hfound⟩ := Option.ne_none_iff_exists'.1 hfound
        exact .added (by simp [htemplates.2 (Or.inl hfound)]) hstage

theorem view_again (ht : t.WellFormed) (hu : u.WellFormed)
    (hdirectory : t.at? directory = some .directory)
    (hcreate : t.at? root = some .directory →
      t.ensureDirectories directory rendition.outputRoot
        = (.ok (), rendition.opened directory t))
    (hlisted : ∀ name, root ++ [name] ∈ r.way directory → t.at? (root ++ [name]) ≠ none) :
    rendition.view directory root u = rendition.view directory root t := by
  have hcreate' : u.at? root = some .directory →
      u.ensureDirectories directory rendition.outputRoot
        = (.ok (), rendition.opened directory u) := by
    intro hat
    rw [← List.append_nil root, at?_templates hdiffers hapart hprepare, List.append_nil] at hat
    exact ensureDirectories_again hdiffers (hat.elim id And.left)
  funext names
  refine Option.ext fun entry => ?_
  rw [Rendition.view_eq_some_iff hu hcreate', Rendition.view_eq_some_iff ht hcreate]
  exact meets_again hdiffers hapart hprepare ht hdirectory hcreate hlisted

end Again

/-- **The output mirrors the templates**: where a generation succeeds, the output directory is
there and all directories of the templates in it, and each template of which something is made has
its rendering under its name without the extension; nothing else has changed.  Mirrored are also the
directories that were missing on the way of the output path in a directory of the templates.  To
generate once more changes nothing at all, unless such a directory was missing among the templates
themselves, and not further down. -/
theorem generate_mirrors (ht : t.WellFormed) (hdirectory : t.at? directory = some .directory)
    (hroot : t.locate directory r.templateRoot = .ok root) (hapart : r.Apart directory root)
    (h : r.generate t directory = (.ok (), u)) :
    ∃ rendition, r.prepare t directory = .ok rendition ∧
      (∀ front stem content,
        t.at? (root ++ (front ++ [templateNameOf stem])) = some (.file content) → stem ≠ "" →
          stem.toList.count '.' ≤ 1 →
            ∃ text, rendition.library.render rendition.context
              (slashed (front ++ [templateNameOf stem])) = some text) ∧
      t.Differs u (fun place entry => ∃ names met, rendition.Meets directory root t names met ∧
        rendition.Makes directory names met place entry) ∧
      ((∀ name, root ++ [name] ∈ r.way directory → t.at? (root ++ [name]) ≠ none) →
        r.generate u directory = (.ok (), u)) := by
  cases hprepare : r.prepare t directory with
  | error e =>
      unfold generate at h
      rw [hprepare] at h
      cases h
  | ok rendition =>
      obtain ⟨stops, hwalks, hrun⟩ := generate_eq_inTurn ht hdirectory hroot hapart hprepare
      rw [h] at hrun
      have houtput := outputRoot_ne_empty_of_prepare hprepare
      have hcreate := ensureDirectories_of_inTurn hwalks hrun.symm
      have hmeets : ∀ {names entry}, rendition.view directory root t names = some entry ↔
          rendition.Meets directory root t names entry := Rendition.view_eq_some_iff ht hcreate
      have hdiffers := Rendition.inTurn_differs_of_meets houtput ht hdirectory hwalks hmeets
        hrun.symm
      refine ⟨rendition, rfl, ?rendered, hdiffers, ?again⟩
      case rendered =>
        intro front stem content hat hstem hdots
        have hstop : Stop.under r.templateRoot (front ++ [templateNameOf stem]) (.file content)
            ∈ stops := (hwalks.mem _).2 ⟨rfl, hmeets.2 (.there hat)⟩
        have hrenders := ((hwalks.named hstop).renders_iff rfl).2 ⟨stem, rfl, hstem, hdots⟩
        exact Rendition.exists_render houtput hwalks hrun.symm hstop rfl hrenders
      case again =>
        intro hlisted
        obtain ⟨hu, hdirectory'⟩ := Rendition.inTurn_wellFormed houtput ht hdirectory hwalks
        rw [← hrun] at hu hdirectory'
        obtain ⟨stops', hwalks', hrun'⟩ := generate_eq_inTurn hu hdirectory'
          (locate_again hdiffers hroot) hapart (prepare_again hdiffers hapart hprepare ht hu hroot)
        -- the same is met in the same order, so that there are the same stops
        rw [view_again hdiffers hapart hprepare ht hu hdirectory hcreate hlisted] at hwalks'
        obtain rfl := hwalks.unique hwalks'
        rw [hrun']
        exact Rendition.inTurn_again houtput ht hdirectory hwalks hrun.symm

end Generation

/-! ## A small library -/

/-- A working directory with a few templates, and an output directory from earlier. -/
def deskFiles : FileTree where
  entries := Table.ofList
    [(["work"], .directory),
      (["work", "out"], .directory),
      (["work", "out", "notes.txt"], .file (Text.Utf8.encode "mine")),
      (["work", "templates"], .directory),
      (["work", "templates", "stub"], .directory),
      (["work", "templates", "stub", "README.md"], .file (Text.Utf8.encode "about")),
      (["work", "templates", "stub", "head.txt.partial.jinja2"], .file (Text.Utf8.encode "Desk")),
      (["work", "templates", "stub", "model"], .directory),
      (["work", "templates", "stub", "model", "item.txt.jinja2"],
        .file (Text.Utf8.encode "\x7b% include \"head.txt.partial.jinja2\" %\x7d"))]

theorem eq_of_fst {α β : Type} {pair : α × β} {a : α} (h : pair.1 = a) : pair = (a, pair.2) :=
  Prod.ext h rfl

/-- A generation without any elements. -/
def plainGeneration (outputDir : String) : Generation where
  api := Api.ofElements [] [] []
  codec := ({} : StubCodec).toCodec
  outputDir
  templateDir := "templates"

/-- A generation along a path that leads through a directory of the templates and out again. -/
def draftsGeneration : Generation :=
  plainGeneration "templates/stub/model/drafts/../../../../out/lib"

theorem deskFiles_mirrored :
    ∃ u, draftsGeneration.generate deskFiles ["work"] = (.ok (), u) ∧
      (u.at? ["work", "out", "lib", "model", "item.txt"]
          = some (.file (Text.Utf8.encode "Desk")) ∧
        u.at? ["work", "out", "lib", "model", "drafts"] = some .directory ∧
        u.at? ["work", "out", "lib", "README.md"] = none) ∧
      ∃ rendition, draftsGeneration.prepare deskFiles ["work"] = .ok rendition ∧
        (∀ front stem content,
          deskFiles.at? (["work", "templates", "stub"] ++ (front ++ [templateNameOf stem]))
              = some (.file content) → stem ≠ "" → stem.toList.count '.' ≤ 1 →
            ∃ text, rendition.library.render rendition.context
              (slashed (front ++ [templateNameOf stem])) = some text) ∧
        deskFiles.Differs u (fun place entry => ∃ names met,
          rendition.Meets ["work"] ["work", "templates", "stub"] deskFiles names met ∧
            rendition.Makes ["work"] names met place entry) ∧
        draftsGeneration.generate u ["work"] = (.ok (), u) := by
  have ht : deskFiles.WellFormed := ⟨by decide +kernel, by decide +kernel⟩
  have hroot : deskFiles.locate ["work"] draftsGeneration.templateRoot
      = .ok ["work", "templates", "stub"] := by decide +kernel
  have hapart : draftsGeneration.Apart ["work"] ["work", "templates", "stub"] :=
    ⟨by decide +kernel, by decide +kernel⟩
  have hlisted : ∀ stage ∈ draftsGeneration.way ["work"], stage.length = 4 →
      deskFiles.at? stage ≠ none := by decide +kernel
  obtain ⟨hok, hmade⟩ : (draftsGeneration.generate deskFiles ["work"]).1 = .ok () ∧
      (draftsGeneration.generate deskFiles ["work"]).2.at?
          ["work", "out", "lib", "model", "item.txt"] = some (.file (Text.Utf8.encode "Desk")) ∧
      (draftsGeneration.generate deskFiles ["work"]).2.at?
          ["work", "out", "lib", "model", "drafts"] = some .directory ∧
      (draftsGeneration.generate deskFiles ["work"]).2.at?
          ["work", "out", "lib", "README.md"] = none := by decide +kernel
  have hrun := eq_of_fst hok
  obtain ⟨rendition, hprepare, hrendered, hdiffers, hagain⟩ :=
    Generation.generate_mirrors ht (by decide +kernel) hroot hapart hrun
  exact ⟨_, hrun, hmade, rendition, hprepare, hrendered, hdiffers,
    hagain fun name hname => hlisted _ hname rfl⟩

/-- A working directory with one directory among the templates, and no template. -/
def bareFiles : FileTree where
  entries := Table.ofList
    [(["work"], .directory), (["work", "templates"], .directory),
      (["work", "templates", "stub"], .directory),
      (["work", "templates", "stub", "sub"], .directory)]

/-- A generation along a path that leads through two directories that are missing among the
templates. -/
def detourGeneration : Generation :=
  plainGeneration "templates/stub/sub/new/../../top/../../../out"

/-- A path through directories that are missing among the templates makes them there, outside of the
output directory.  One that is further down is mirrored at once, and the next generation finds the
other one too. -/
theorem bareFiles_detour :
    bareFiles.WellFormed ∧ bareFiles.at? ["work"] = some .directory ∧
      detourGeneration.Apart ["work"] ["work", "templates", "stub"] ∧
      bareFiles.locate ["work"] detourGeneration.templateRoot
        = .ok ["work", "templates", "stub"] ∧
      ∃ u, detourGeneration.generate bareFiles ["work"] = (.ok (), u) ∧
        (bareFiles.at? ["work", "templates", "stub", "sub", "new"] = none ∧
          u.at? ["work", "templates", "stub", "sub", "new"] = some .directory ∧
          u.at? ["work", "out", "sub", "new"] = some .directory) ∧
        detourGeneration.generate u ["work"] ≠ (.ok (), u) := by
  have hok : (detourGeneration.generate bareFiles ["work"]).1 = .ok () := by decide +kernel
  refine ⟨⟨by decide +kernel, by decide +kernel⟩, by decide +kernel,
    ⟨by decide +kernel, by decide +kernel⟩, by decide +kernel, _, eq_of_fst hok,
    by decide +kernel, ?_⟩
  intro hagain
  have hnew := congrArg (fun result => result.2.at? ["work", "out", "top"]) hagain
  revert hnew
  decide +kernel

end ClientGen
