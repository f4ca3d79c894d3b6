import ClientGen.Proofs.Emission
import ClientGen.Proofs.Mirroring

/-!
# A generation that fails

All templates are loaded and the context is built before anything is written, so what fails then
leaves everything as it was.  Later the first stop that fails ends the generation, and what was made
for the stops before it stays.  A stop that fails makes nothing itself, except for the first one:
the directories on the way to the output directory are made one by one.

* `FileTree.libraryOf_error_of_mem` — one template that cannot be loaded is enough for none to be.
* `Rendition.Leaves` — what is left of a tree after a stop that fails.
* `Generation.generate_aborts` — what a generation that fails has done.
-/

namespace ClientGen

open ClientGen.Path Place FileTree

variable {t u v : FileTree} {directory root : Place}

/-! ## Loading -/

namespace FileTree

variable {stops : List Stop} {stop : Stop}

/-- The stop is at a template, possibly a partial, that is no text or that cannot be read. -/
def Stop.FailsToLoad (stop : Stop) : Prop :=
  ∃ name content, templateAt? stop = some (name, content) ∧
    (Text.Utf8.decode? content).bind (Template.ofText name) = none

/-- **One template that cannot be loaded is enough.** -/
theorem libraryOf_error_of_mem (hstop : stop ∈ stops) (h : stop.FailsToLoad) :
    libraryOf stops = .error .template := by
  obtain ⟨name, content, htemplate, hload⟩ := h
  have hmem : (name, content) ∈ stops.filterMap templateAt? :=
    List.mem_filterMap.2 ⟨stop, hstop, htemplate⟩
  unfold libraryOf
  simp only
  split
  · rename_i library hloaded
    exfalso
    obtain ⟨texts, htexts, hlibrary⟩ := Option.bind_eq_some_iff.1 hloaded
    obtain ⟨⟨name', text⟩, htext, hdecoded⟩ :=
      exists_mem_of_forall₂ (PathTemplate.mapM_eq_some_iff.1 htexts).flip hmem
    obtain ⟨text', hdecode, heq⟩ := Option.map_eq_some_iff.1 hdecoded
    obtain ⟨rfl, rfl⟩ := Prod.mk.inj heq
    unfold Template.Library.ofTexts at hlibrary
    split at hlibrary
    · cases hlibrary
    · rename_i templates hread
      obtain ⟨_, -, hone⟩ :=
        exists_mem_of_forall₂ (PathTemplate.mapM_eq_some_iff.1 hread).flip htext
      obtain ⟨read, hread', -⟩ := Option.map_eq_some_iff.1 hone
      rw [hdecode, Option.bind_some, hread'] at hload
      cases hload
  · rfl

end FileTree

/-! ## A stop that fails -/

namespace Rendition

variable {r : Rendition} {stop : Stop}

/-- What is left of a tree after a stop that fails: the tree as it was, or, if the output directory
cannot be made, the tree with the directories that were made on the way before one that is
blocked. -/
inductive Leaves (r : Rendition) (directory : Place) (t : FileTree) (stop : Stop) : FileTree → Prop
  | unchanged (hstop : stop.names = [] → stop.entry ≠ .directory) : Leaves r directory t stop t
  | halfway {u : FileTree} {fault : FileFault} {made rest : List Place} {blocked : Place}
      (hnames : stop.names = []) (hentry : stop.entry = .directory)
      (hcreate : t.ensureDirectories directory r.outputRoot = (.error fault, u))
      (hway : r.way directory [] = made ++ blocked :: rest)
      (hmade : t.Differs u fun place entry => place ∈ made ∧ entry = .directory)
      (hblocked : u.Blocks blocked) : Leaves r directory t stop u

/-- **What a stop that fails leaves behind.** -/
theorem visit_error_iff_leaves {path : String} {e : GeneratorError} (hnamed : stop.Named path)
    (hreaches : r.Reaches directory t stop.names) :
    r.visit directory t stop = (.error e, u) ↔
      r.Fails directory t stop e ∧ r.Leaves directory t stop u := by
  constructor
  · intro h
    refine ⟨visit_error_iff.1 (congrArg Prod.fst h), ?_⟩
    by_cases hstart : stop.names = [] ∧ stop.entry = .directory
    · obtain ⟨hnames, hentry⟩ := hstart
      obtain ⟨fault, -, hcreate⟩ := visit_directory_error hentry h
      rw [hnames] at hcreate
      obtain ⟨made, blocked, rest, hstages, hmade, hblocked⟩ := createAlong_error hcreate
      exact .halfway hnames hentry hcreate ((r.way_nil directory).trans hstages) hmade hblocked
    · have hother : stop.names = [] → stop.entry ≠ .directory := fun hnames hentry =>
        hstart ⟨hnames, hentry⟩
      obtain rfl := visit_error hnamed hother hreaches h
      exact .unchanged hother
  · rintro ⟨hfails, hleaves⟩
    have herror := visit_error_iff.2 hfails
    cases hleaves with
    | unchanged hother =>
        rcases hvisit : r.visit directory t stop with ⟨result, v⟩
        obtain rfl : result = .error e := by rwa [hvisit] at herror
        rw [visit_error hnamed hother hreaches hvisit]
    | halfway hnames hentry hcreate =>
        rw [visit_directory hentry, hnames, show joinAll r.outputRoot [] = r.outputRoot from rfl,
          hcreate] at herror ⊢
        exact Prod.ext herror rfl

end Rendition

namespace Generation

variable {r : Generation} {stops : List Stop} {rendition : Rendition}

/-! ## The first failure -/

/-- What fails while everything is prepared changes nothing. -/
theorem generate_of_prepare_error {e : GeneratorError} (h : r.prepare t directory = .error e) :
    r.generate t directory = (.error e, t) := by
  unfold generate
  rw [h]

theorem prepare_error_of_library {e : GeneratorError}
    (hstops : t.stops directory r.templateRoot = .ok stops) (h : libraryOf stops = .error e) :
    r.prepare t directory = .error e := by
  simp only [prepare, hstops, h, bind, Except.bind]

theorem prepare_error_of_context {library : Template.Library} {e : GeneratorError}
    (hstops : t.stops directory r.templateRoot = .ok stops)
    (hlibrary : libraryOf stops = .ok library)
    (h : r.codec.contextOf r.api = .error e) : r.prepare t directory = .error e := by
  simp only [prepare, hstops, hlibrary, h, bind, Except.bind]

/-- **A generation that fails ends at the first failure.**  If a template cannot be loaded or the
context cannot be built, nothing has changed.  Otherwise there is a first stop that fails, the error
is that of this stop, and what is to be made of the stops before it has been made and nothing else,
except that the first stop leaves the directories behind that it has made on the way to an output
directory that cannot be made. -/
theorem generate_aborts (ht : t.WellFormed) (hdirectory : t.at? directory = some .directory)
    (hroot : t.locate directory r.templateRoot = .ok root) (hapart : r.Apart directory root) :
    (∀ stops, t.stops directory r.templateRoot = .ok stops →
      ((∃ stop ∈ stops, stop.FailsToLoad) → r.generate t directory = (.error .template, t)) ∧
      (∀ e, libraryOf stops = .error e → r.generate t directory = (.error e, t)) ∧
      ∀ library e, libraryOf stops = .ok library → r.codec.contextOf r.api = .error e →
        r.generate t directory = (.error e, t)) ∧
    ∀ rendition, r.prepare t directory = .ok rendition →
      ∃ stops, Walks (rendition.view directory root t) r.templateRoot stops ∧
        ∀ e u, r.generate t directory = (.error e, u) ↔
          ∃ before stop after v, stops = before ++ stop :: after ∧
            inTurn (rendition.visit directory) t before = (.ok (), v) ∧
            t.Differs v (rendition.MakesAll directory before) ∧
            rendition.Fails directory v stop e ∧ rendition.Leaves directory v stop u := by
  refine ⟨fun stops hstops => ⟨?template, ?library, ?context⟩, fun rendition hprepare => ?_⟩
  case template =>
    rintro ⟨stop, hstop, hfails⟩
    exact generate_of_prepare_error
      (prepare_error_of_library hstops (libraryOf_error_of_mem hstop hfails))
  case library =>
    exact fun e he => generate_of_prepare_error (prepare_error_of_library hstops he)
  case context =>
    exact fun library e hlibrary he =>
      generate_of_prepare_error (prepare_error_of_context hstops hlibrary he)
  obtain ⟨stops, hwalks, hrun⟩ := generate_eq_inTurn ht hdirectory hroot hapart hprepare
  have houtput := outputRoot_ne_empty_of_prepare hprepare
  refine ⟨stops, hwalks, fun e u => ?_⟩
  rw [hrun, inTurn_error_iff]
  constructor
  · rintro ⟨before, stop, after, v, rfl, hbefore, hvisit⟩
    have hdiffers := Rendition.inTurn_differs houtput ht hdirectory hwalks hbefore
    have hnamed := hwalks.named (List.mem_append_right _ (List.mem_cons_self ..))
    exact ⟨before, stop, after, v, rfl, hbefore, hdiffers, (Rendition.visit_error_iff_leaves hnamed
      (Rendition.reaches_of_walks hwalks hdiffers.holds)).1 hvisit⟩
  · rintro ⟨before, stop, after, v, rfl, hbefore, hdiffers, hfails⟩
    have hnamed := hwalks.named (List.mem_append_right _ (List.mem_cons_self ..))
    exact ⟨before, stop, after, v, rfl, hbefore, (Rendition.visit_error_iff_leaves hnamed
      (Rendition.reaches_of_walks hwalks hdiffers.holds)).2 hfails⟩

end Generation

/-! ## A template that cannot be rendered -/

/-- A working directory in which the second of three templates includes one that is missing. -/
def tornFiles : FileTree where
  entries := Table.ofList
    [(["work"], .directory), (["work", "templates"], .directory),
      (["work", "templates", "stub"], .directory),
      (["work", "templates", "stub", "a.txt.jinja2"], .file (Text.Utf8.encode "first")),
      (["work", "templates", "stub", "b.txt.jinja2"],
        .file (Text.Utf8.encode "\x7b% include \"gone.txt\" %\x7d")),
      (["work", "templates", "stub", "c.txt.jinja2"], .file (Text.Utf8.encode "last"))]

theorem tornFiles_aborted :
    ∃ rendition stops u, (plainGeneration "out").prepare tornFiles ["work"] = .ok rendition ∧
      Walks (rendition.view ["work"] ["work", "templates", "stub"] tornFiles) "templates/stub"
        stops ∧
      (plainGeneration "out").generate tornFiles ["work"] = (.error (.render "b.txt.jinja2"), u) ∧
      (u.at? ["work", "out", "a.txt"] = some (.file (Text.Utf8.encode "first")) ∧
        u.at? ["work", "out", "c.txt"] = none) ∧
      ∃ before stop after v, stops = before ++ stop :: after ∧
        inTurn (rendition.visit ["work"]) tornFiles before = (.ok (), v) ∧
        tornFiles.Differs v (rendition.MakesAll ["work"] before) ∧
        rendition.Fails ["work"] v stop (.render "b.txt.jinja2") ∧
        rendition.Leaves ["work"] v stop u := by
  have ht : tornFiles.WellFormed := ⟨by decide +kernel, by decide +kernel⟩
  have hroot : tornFiles.locate ["work"] (plainGeneration "out").templateRoot
      = .ok ["work", "templates", "stub"] := by decide +kernel
  have hapart : (plainGeneration "out").Apart ["work"] ["work", "templates", "stub"] :=
    ⟨by decide +kernel, by decide +kernel⟩
  obtain ⟨herror, hmade⟩ :
      ((plainGeneration "out").generate tornFiles ["work"]).1 = .error (.render "b.txt.jinja2") ∧
      ((plainGeneration "out").generate tornFiles ["work"]).2.at? ["work", "out", "a.txt"]
        = some (.file (Text.Utf8.encode "first")) ∧
      ((plainGeneration "out").generate tornFiles ["work"]).2.at? ["work", "out", "c.txt"]
        = none := by
    decide +kernel
  have hrun := eq_of_fst herror
  have haborts := (Generation.generate_aborts ht (by decide +kernel) hroot hapart).2
  cases hprepare : (plainGeneration "out").prepare tornFiles ["work"] with
  | error e =>
      have hprepared : ((plainGeneration "out").prepare tornFiles ["work"]).toOption.isSome
          = true := by decide +kernel
      rw [hprepare] at hprepared
      cases hprepared
  | ok rendition =>
      obtain ⟨stops, hwalks, hfails⟩ := haborts rendition hprepare
      exact ⟨rendition, stops, _, rfl, hwalks, hrun, hmade, (hfails _ _).1 hrun⟩

/-- A working directory in which a file is where a directory is needed. -/
def blockedFiles : FileTree where
  entries := Table.ofList
    [(["work"], .directory), (["work", "out"], .directory),
      (["work", "out", "notes.txt"], .file (Text.Utf8.encode "mine")),
      (["work", "templates"], .directory), (["work", "templates", "stub"], .directory)]

/-- A generation along a path that leads through a directory that is missing, and then through a
file. -/
def blockedGeneration : Generation :=
  plainGeneration "out/new/../notes.txt/deep"

/-- The only stop fails, so that there is none before it, and yet a directory has been made. -/
theorem blockedFiles_halfway :
    blockedFiles.WellFormed ∧ blockedFiles.at? ["work"] = some .directory ∧
      blockedGeneration.Apart ["work"] ["work", "templates", "stub"] ∧
      blockedFiles.locate ["work"] blockedGeneration.templateRoot
        = .ok ["work", "templates", "stub"] ∧
      blockedFiles.stops ["work"] blockedGeneration.templateRoot
        = .ok [Stop.under "templates/stub" [] .directory] ∧
      ∃ rendition u, blockedGeneration.prepare blockedFiles ["work"] = .ok rendition ∧
        rendition.Fails ["work"] blockedFiles (Stop.under "templates/stub" [] .directory)
          (.file .notADirectory) ∧
        blockedGeneration.generate blockedFiles ["work"] = (.error (.file .notADirectory), u) ∧
        blockedFiles.at? ["work", "out", "new"] = none ∧
        u.at? ["work", "out", "new"] = some .directory := by
  refine ⟨⟨by decide +kernel, by decide +kernel⟩, by decide +kernel,
    ⟨by decide +kernel, by decide +kernel⟩, by decide +kernel, by decide +kernel, ?_⟩
  have hprepared : (blockedGeneration.prepare blockedFiles ["work"]).toOption.isSome = true := by
    decide +kernel
  have herror : (blockedGeneration.generate blockedFiles ["work"]).1
      = .error (.file .notADirectory) := by decide +kernel
  cases hprepare : blockedGeneration.prepare blockedFiles ["work"] with
  | error e =>
      rw [hprepare] at hprepared
      cases hprepared
  | ok rendition =>
      refine ⟨rendition, _, rfl, .creating rfl ?_, eq_of_fst herror, by decide +kernel,
        by decide +kernel⟩
      rw [Generation.outputRoot_of_prepare hprepare]
      decide +kernel

end ClientGen
