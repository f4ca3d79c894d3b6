import ClientGen.Proofs.Mirroring
import ClientGen.Proofs.SavedDocuments

/-!
# A saved configuration is safe from runs that fail

A run plans a generation before it writes anything: it resolves the settings, chooses the format and
the codec, reads the specification and lets the codec check it.  Whatever is done to the file tree
on the way there is undone.  The generation that follows can fail half way, but nothing that it
makes has the name of the saved configuration, since it has two dots.  What is saved last is one
file, which is written or not.

* `Action.Leads` — whatever an action ends with, where it leads to.
* `Config.plan`, `Config.generate_eq_plan` — the stages of a run.
* `Config.plan_unchanged` — planning leaves the file tree as it was.
* `Generation.generate_keeps` — a generation keeps a saved configuration, also if it fails.
* `Config.generate_safeguards` — what a run leaves behind.
-/

namespace ClientGen

open ClientGen.Path Place FileTree

/-! ## Where actions lead -/

namespace Action

variable {ε δ α β : Type} {R : World → World → Prop}

/-- Whatever the action ends with, the world that it leads to is related to the one before. -/
def Leads (R : World → World → Prop) (a : Action ε α) : Prop :=
  ∀ w, R w (a.run.run w).2

theorem Leads.mono {S : World → World → Prop} {a : Action ε α} (h : Leads R a)
    (himp : ∀ w v, R w v → S w v) : Leads S a :=
  fun w => himp _ _ (h w)

theorem leads_ofExcept (hrefl : ∀ w, R w w) (x : Except ε α) : Leads R (ofExcept x) := by
  intro w
  cases x <;> exact hrefl w

theorem Leads.mapError {a : Action ε α} (h : Leads R a) (f : ε → δ) : Leads R (a.mapError f) := by
  intro w
  rw [run_mapError]
  exact h w

theorem Leads.bind {a : Action ε α} {f : α → Action ε β} (h : Leads R a)
    (htrans : ∀ u v w, R u v → R v w → R u w) (hf : ∀ x, Leads R (f x)) :
    Leads R (a >>= f) := by
  intro w
  have hfirst := h w
  rw [run_bind]
  rcases hrun : a.run.run w with ⟨e | x, v⟩
  · rw [hrun] at hfirst
    exact hfirst
  · rw [hrun] at hfirst
    exact htrans w v _ hfirst (hf x v)

theorem leads_ofExcept_bind (hrefl : ∀ w, R w w) {x : Except ε α} {f : α → Action ε β}
    (h : ∀ a, x = .ok a → Leads R (f a)) : Leads R (ofExcept x >>= f) := by
  intro w
  cases x with
  | error e => exact hrefl w
  | ok a => exact h a rfl w

theorem leads_get_bind {f : World → Action ε β} (h : ∀ w, Leads R (f w)) :
    Leads R ((get : Action ε World) >>= f) :=
  fun w => h w w

theorem leads_look (hrefl : ∀ w, R w w) (f : FileTree → Place → Except FileFault α) :
    Leads R (look f) :=
  leads_get_bind fun _ => leads_ofExcept hrefl _

/-- Whatever error the action ends with has the property. -/
def Raises (P : ε → Prop) (a : Action ε α) : Prop :=
  ∀ w e, (a.run.run w).1 = .error e → P e

theorem raises_ofExcept {P : ε → Prop} {x : Except ε α} (h : ∀ e, x = .error e → P e) :
    Raises P (ofExcept x) := by
  intro w e he
  cases x with
  | error e' => exact h e he
  | ok a => cases he

theorem raises_mapError {P : δ → Prop} {f : ε → δ} (h : ∀ e, P (f e)) (a : Action ε α) :
    Raises P (a.mapError f) := by
  intro w e he
  rw [run_mapError] at he
  cases hrun : (a.run.run w).1 with
  | error e' =>
      rw [hrun] at he
      exact Except.error.inj he ▸ h e'
  | ok x =>
      rw [hrun] at he
      cases he

theorem Raises.bind {P : ε → Prop} {a : Action ε α} {f : α → Action ε β} (h : Raises P a)
    (hf : ∀ x, Raises P (f x)) : Raises P (a >>= f) := by
  intro w e he
  have hfirst := h w
  rw [run_bind] at he
  rcases hrun : a.run.run w with ⟨e' | x, v⟩
  · rw [hrun] at he hfirst
    exact hfirst e (congrArg Except.error (Except.error.inj he))
  · rw [hrun] at he
    exact hf x v e he

theorem run_work (f : FileTree → Place → Except ε Unit × FileTree) (w : World) :
    (work f).run.run w
      = ((f w.tree w.directory).1, { w with tree := (f w.tree w.directory).2 }) := by
  unfold work
  rw [run_get]
  rcases f w.tree w.directory with ⟨_ | _, tree⟩ <;> rfl

theorem run_change (f : FileTree → Place → Except FileFault FileTree) (w : World) :
    (change f).run.run w =
      match f w.tree w.directory with
      | .ok tree => (.ok (), { w with tree })
      | .error fault => (.error fault, w) := by
  unfold change
  rw [run_get]
  cases f w.tree w.directory <;> rfl

end Action

/-! ## Temporary files -/

namespace FileTree

variable {t u : FileTree} {place : Place}

/-- Nothing is left at a place that was removed and below it. -/
theorem get?_remove (t : FileTree) (place q : Place) :
    (t.remove place).entries.get? q = if place <+: q then none else t.entries.get? q := by
  refine Option.ext fun entry => ?_
  have hmem : (t.remove place).entries.get? q = some entry ↔
      t.entries.get? q = some entry ∧ ¬place <+: q := by
    rw [← mem_entries_iff, ← mem_entries_iff, remove, Table.filter, List.mem_filter,
      Bool.not_eq_true', ← Bool.not_eq_true, List.isPrefixOf_iff_prefix]
  rw [hmem]
  split <;> simp [*]

/-- Nothing is below a place where nothing is. -/
theorem WellFormed.get?_below (ht : t.WellFormed) (hplace : t.at? place = none) {q : Place}
    (hq : place <+: q) : t.entries.get? q = none := by
  obtain ⟨rest, rfl⟩ := hq
  have hne : place ++ rest ≠ [] := by
    intro hnil
    rw [(List.append_eq_nil_iff.1 hnil).1] at hplace
    cases hplace
  cases hget : t.entries.get? (place ++ rest) with
  | none => rfl
  | some entry =>
      exfalso
      rw [← at?_of_ne_nil hne] at hget
      by_cases hrest : rest = []
      · rw [hrest, List.append_nil, hplace] at hget
        cases hget
      · rw [ht.directory_of_append hget hrest] at hplace
        cases hplace

/-- One tree is another one but for what is at a place and below it. -/
structure OnlyAt (place : Place) (t u : FileTree) : Prop where
  refuses : u.refuses = t.refuses
  kept : ∀ q, ¬place <+: q → u.entries.get? q = t.entries.get? q

theorem OnlyAt.refl (place : Place) (t : FileTree) : t.OnlyAt place t :=
  ⟨rfl, fun _ _ => rfl⟩

theorem OnlyAt.trans {v : FileTree} (h : OnlyAt place t u) (h' : OnlyAt place u v) :
    OnlyAt place t v :=
  ⟨h'.refuses.trans h.refuses, fun q hq => (h'.kept q hq).trans (h.kept q hq)⟩

theorem onlyAt_put (place : Place) (t : FileTree) (entry : Entry) :
    OnlyAt place t (t.put place entry) := by
  refine ⟨rfl, fun q hq => ?_⟩
  have hne : q ≠ place := by
    rintro rfl
    exact hq List.prefix_rfl
  rw [put, Table.get?_insert', if_neg hne]

theorem onlyAt_remove (place : Place) (t : FileTree) : OnlyAt place t (t.remove place) :=
  ⟨rfl, fun q hq => by rw [get?_remove, if_neg hq]⟩

/-- Where nothing was, nothing is left when all that was made there is removed. -/
theorem OnlyAt.remove_eq (h : OnlyAt place t u) (ht : t.WellFormed) (hplace : t.at? place = none) :
    u.remove place = t := by
  have hentries : (u.remove place).entries = t.entries := by
    refine Table.ext_get? fun q => ?_
    rw [get?_remove]
    split
    · rename_i hq
      exact (ht.get?_below hplace hq).symm
    · rename_i hq
      exact h.kept q hq
  obtain ⟨entries, refuses⟩ := t
  obtain rfl : entries = (u.remove place).entries := hentries.symm
  obtain rfl : u.refuses = refuses := h.refuses
  rfl

theorem createFileAt_ok (h : t.createFileAt place = .ok u) :
    t.at? place.dropLast = some .directory ∧ t.at? place = none ∧ u = t.put place (.file []) := by
  unfold createFileAt at h
  split at h
  · cases h
  · rename_i hparent
    split at h
    · cases h
    · rename_i hnone
      split at h
      · cases h
      · exact ⟨not_not.1 hparent, hnone, (Except.ok.inj h).symm⟩

/-- A temporary file is made in the directory for temporary files. -/
theorem createTemporary_ok {directory : Place} {path path' : String}
    (h : t.createTemporary directory path = .ok (place, path', u)) :
    t.createFileAt place = .ok u ∧
      ∃ parent number, t.locate directory path = .ok parent ∧
        place = parent ++ [temporaryName number] ∧ path' = join path (temporaryName number) := by
  unfold createTemporary at h
  cases hlocate : t.locate directory path with
  | error fault =>
      rw [hlocate] at h
      cases h
  | ok parent =>
      simp only [hlocate, bind, Except.bind] at h
      split at h
      · cases h
      · rename_i name hname
        obtain ⟨number, -, rfl⟩ := List.mem_map.1 (List.mem_of_find?_eq_some hname)
        cases hcreate : t.createFileAt (parent ++ [temporaryName number]) with
        | error fault =>
            rw [hcreate] at h
            cases h
        | ok tree =>
            rw [hcreate] at h
            cases h
            exact ⟨hcreate, parent, number, rfl, rfl, rfl⟩

end FileTree

/-! ## Planning -/

/-- Nothing has been done to the files of the world. -/
def World.SameFiles (w v : World) : Prop :=
  w.tree.WellFormed → v.tree = w.tree ∧ v.directory = w.directory

/-- Something has been done to the files of the world at one place only. -/
def World.FilesAt (place : Place) (w v : World) : Prop :=
  w.tree.OnlyAt place v.tree ∧ v.directory = w.directory

theorem World.SameFiles.refl (w : World) : w.SameFiles w :=
  fun _ => ⟨rfl, rfl⟩

theorem World.SameFiles.trans {u v w : World} (h : u.SameFiles v) (h' : v.SameFiles w) :
    u.SameFiles w := by
  intro hu
  obtain ⟨htree, hdirectory⟩ := h hu
  obtain ⟨htree', hdirectory'⟩ := h' (htree ▸ hu)
  exact ⟨htree'.trans htree, hdirectory'.trans hdirectory⟩

theorem World.FilesAt.refl (place : Place) (w : World) : World.FilesAt place w w :=
  ⟨.refl place w.tree, rfl⟩

theorem World.FilesAt.trans {place : Place} {u v w : World} (h : World.FilesAt place u v)
    (h' : World.FilesAt place v w) : World.FilesAt place u w :=
  ⟨h.1.trans h'.1, h'.2.trans h.2⟩

/-- **A temporary file leaves no trace**, if what is done with it is done to it alone. -/
theorem leads_withTemporaryFile {α : Type} {body : Place → String → Action GeneratorError α}
    (h : ∀ place path, (body place path).Leads (World.FilesAt place)) :
    (withTemporaryFile body).Leads World.SameFiles := by
  unfold withTemporaryFile
  intro w
  rw [Action.run_get]
  cases hcreate : w.tree.createTemporary w.directory w.temporary with
  | error fault => exact .refl w
  | ok created =>
      obtain ⟨place, path, tree⟩ := created
      intro hw
      obtain ⟨-, hnone, rfl⟩ := createFileAt_ok (createTemporary_ok hcreate).1
      obtain ⟨hbody, hdirectory⟩ :=
        h place path { w with tree := w.tree.put place (.file []) }
      exact ⟨((onlyAt_put place w.tree _).trans hbody).remove_eq hw hnone, hdirectory⟩

theorem CompilerOutput.onlyAt_apply (output : CompilerOutput) (place : Place) (t : FileTree) :
    OnlyAt place t (output.apply place t) := by
  cases output with
  | untouched => exact .refl place t
  | written content => exact onlyAt_put place t _
  | removed => exact onlyAt_remove place t

/-- The compiler writes to its file and to no other. -/
theorem leads_runCompiler (place : Place) (output : String) (files : List String)
    (options : Table String String) :
    (runCompiler place output files options).Leads (World.FilesAt place) := by
  unfold runCompiler
  intro w
  rw [Action.run_get]
  cases hcompiler : w.compiler with
  | none => exact .refl place w
  | some compiler =>
      simp only
      generalize compiler w.tree w.directory (compilerArgs output files options) = run
      have hstep : World.FilesAt place w
          { w with
            tree := run.output.apply place w.tree
            compiler := some compiler
            calls := w.calls ++ [compilerArgs output files options] } :=
        ⟨run.output.onlyAt_apply place w.tree, rfl⟩
      have hrest : Action.Leads (World.FilesAt place) (do
          if !run.status.isSuccess then
            throw (.compilerFailed run.status (Text.Utf8.decodeLossy run.stderr))
          Action.look fun tree directory => tree.readBytes directory output) := by
        split
        · exact fun v => .refl place v
        · exact Action.leads_look (.refl place) _
      exact hstep.trans (hrest _)

theorem leads_compileInputs (search : InputSearch) (options : Table String String) :
    (compileInputs search options).Leads World.SameFiles := by
  refine leads_withTemporaryFile fun place output => ?_
  refine Action.leads_get_bind fun w => ?_
  refine (Action.leads_ofExcept (.refl place) _).bind (fun _ _ _ => .trans) fun files => ?_
  refine (leads_runCompiler place output files options).bind (fun _ _ _ => .trans) fun content => ?_
  split
  · exact fun v => .refl place v
  · exact fun v => .refl place v

theorem leads_readServiceConfig (path : String) :
    (readServiceConfig path).Leads World.SameFiles :=
  (Action.leads_look .refl _).bind (fun _ _ _ => .trans) fun _ => Action.leads_ofExcept .refl _

/-- Reading a specification changes no files. -/
theorem SpecificationFormat.leads_read {name : String} {format : SpecificationFormat}
    (h : ofName name = .ok format) (s : Specification) :
    (format.read s).Leads World.SameFiles := by
  unfold ofName at h
  split at h
  · obtain rfl := Except.ok.inj h
    refine Action.Leads.bind ?_ (fun _ _ _ => .trans) fun config => ?_
    · cases s.serviceConfig with
      | none => exact fun w => .refl w
      | some path =>
          exact (leads_readServiceConfig path).bind (fun _ _ _ => .trans) fun _ w => .refl w
    · exact (leads_compileInputs _ _).bind (fun _ _ _ => .trans) fun _ w => .refl w
  · cases h

namespace Config

variable {c : Config} {output : String} {w w' : World}

/-- Everything that comes before the generation. -/
def plan (c : Config) (output : String) : Action CommandError Generation := do
  let settings ← Action.ofExcept (c.resolve.mapError .configuration)
  let format ← Action.ofExcept
    ((SpecificationFormat.ofName settings.specificationFormat).mapError .format)
  let codec ← Action.ofExcept
    ((Codec.ofLanguage (← get).currentYear settings.language settings.codec).mapError .codec)
  let api ← (format.read
    { source := settings.specificationSource
      serviceConfig := settings.serviceConfig
      options := settings.source }).mapError (.specification settings.specificationSource)
  Action.ofExcept ((codec.validate (codec.withWellKnownTypes api)).mapError .rejected)
  return { api := codec.withWellKnownTypes api, codec, outputDir := output,
           templateDir := settings.templateDir }

/-- The generation and then the saving. -/
def carryOut (c : Config) (output : String) (r : Generation) : Action CommandError Unit := do
  r.run.mapError .generation
  (c.save output).mapError .configuration

/-- A run is a plan that is carried out. -/
theorem generate_eq_plan (c : Config) (output : String) :
    c.generate output = c.plan output >>= c.carryOut output := by
  simp [generate, plan, carryOut]

/-- **Planning leaves the files as they were**, whether it succeeds or not. -/
theorem plan_unchanged (c : Config) (output : String) :
    (c.plan output).Leads World.SameFiles := by
  refine Action.leads_ofExcept_bind .refl fun settings _ => ?_
  refine Action.leads_ofExcept_bind .refl fun format hformat => ?_
  have hname : SpecificationFormat.ofName settings.specificationFormat = .ok format := by
    cases hread : SpecificationFormat.ofName settings.specificationFormat with
    | error e =>
        rw [hread] at hformat
        cases hformat
    | ok other =>
        rw [hread] at hformat
        rw [Except.ok.inj hformat]
  refine Action.leads_get_bind fun w => ?_
  refine Action.leads_ofExcept_bind .refl fun codec _ => ?_
  refine ((format.leads_read hname _).mapError _).bind (fun _ _ _ => .trans) fun api => ?_
  exact Action.leads_ofExcept_bind .refl fun _ _ w => .refl w

end Config

/-! ## What a generation keeps -/

namespace FileTree

variable {t u v : FileTree} {saved : Place} {directory : Place}

/-- The file at a place is the same in both trees, and so are the directories of the first one. -/
structure Keeps (saved : Place) (t u : FileTree) : Prop where
  file : ∀ content, u.at? saved = some (.file content) ↔ t.at? saved = some (.file content)
  directory : ∀ place, t.at? place = some .directory → u.at? place = some .directory

theorem Keeps.refl (saved : Place) (t : FileTree) : Keeps saved t t :=
  ⟨fun _ => Iff.rfl, fun _ h => h⟩

theorem Keeps.trans (h : Keeps saved t u) (h' : Keeps saved u v) : Keeps saved t v :=
  ⟨fun content => (h'.file content).trans (h.file content),
    fun place hplace => h'.directory place (h.directory place hplace)⟩

/-- Directories that are created keep all files, also if not all of them can be created. -/
theorem createAlong_keeps {place : Place} {parts : List String} :
    Keeps saved t (t.createAlong place parts).2 := by
  obtain ⟨made, -, hdiffers⟩ := t.createAlong_made place parts
  refine ⟨fun content => ⟨fun h => ?_, hdiffers.at?_of_directories⟩, fun q hq =>
    hdiffers.directory hq⟩
  rcases hdiffers.of_directories h with hat | ⟨-, hdirectory⟩
  · exact hat
  · cases hdirectory

/-- A file that is written elsewhere keeps the file. -/
theorem put_keeps {place : Place} {content : List UInt8} (hne : place ≠ [])
    (hother : place ≠ saved) (hat : t.at? place ≠ some .directory) :
    Keeps saved t (t.put place (.file content)) := by
  refine ⟨fun content => ?_, fun q hq => ?_⟩
  · rw [at?_put hne, if_neg hother.symm]
  · have hplace : q ≠ place := by
      rintro rfl
      exact hat hq
    rw [at?_put hne, if_neg hplace, hq]

/-- Everything in the tree has a name. -/
def Named (t : FileTree) : Prop :=
  ∀ place name entry, t.at? (place ++ [name]) = some entry → IsName name

theorem WellFormed.named (ht : t.WellFormed) : t.Named := fun _ name _ h =>
  ht.isName h name (List.mem_append_right _ (List.mem_singleton_self name))

theorem Named.put (ht : t.Named) {place : Place} {name : String} {entry : Entry}
    (hname : IsName name) : (t.put (place ++ [name]) entry).Named := by
  intro q n e h
  rw [at?_put (List.concat_ne_nil name place)] at h
  split at h
  · rename_i heq
    rwa [List.singleton_inj.1 (List.append_inj' heq rfl).2]
  · exact ht q n e h

theorem Named.createAlong (ht : t.Named) {place : Place} {parts : List String}
    (hparts : ∀ p ∈ parts, IsPart p) : (t.createAlong place parts).2.Named := by
  obtain ⟨made, hmade, hdiffers⟩ := t.createAlong_made place parts
  intro q n e h
  rcases hdiffers.of_directories h with hat | ⟨hnew, -⟩
  · exact ht q n e hat
  · exact isName_of_mem_stages hparts (hmade _ hnew)

theorem readBytes_eq_ok_iff {path : String} {content : List UInt8} :
    t.readBytes directory path = .ok content ↔
      ∃ place, t.locate directory path = .ok place ∧ t.at? place = some (.file content) ∧
        promisesDirectory path = false := by
  unfold readBytes look
  cases hlocate : t.locate directory path with
  | error fault => simp
  | ok place =>
      cases hat : t.at? place with
      | none => simp [hat]
      | some entry =>
          cases entry with
          | directory => simp [hat]
          | file content' =>
              cases hpromises : promisesDirectory path <;> simp [hat]

/-- What was read is still read. -/
theorem Keeps.readBytes {path : String} {content : List UInt8}
    (h : Keeps (destination (origin directory path) (parts path)) t u)
    (hread : t.readBytes directory path = .ok content) :
    u.readBytes directory path = .ok content := by
  obtain ⟨place, hlocate, hat, hpromises⟩ := readBytes_eq_ok_iff.1 hread
  obtain ⟨hne, hstages, rfl⟩ := locate_eq_ok_iff.1 hlocate
  have hlocate' := locate_eq_ok_iff.2
    ⟨hne, fun stage hstage => h.directory stage (hstages stage hstage), rfl⟩
  exact readBytes_eq_ok_iff.2 ⟨_, hlocate', (h.file content).2 hat, hpromises⟩

end FileTree

namespace Config

/-- The place of the saved configuration of an output. -/
def placeIn (directory : Place) (output : String) : Place :=
  destination (origin directory (pathIn output)) (parts (pathIn output))

theorem isName_fileName : IsName fileName := by
  decide

end Config

namespace Rendition

variable {r : Rendition} {t u : FileTree} {directory : Place} {stop : Stop} {stops : List Stop}

/-- **A stop keeps the saved configuration**, whether it succeeds or not: the name of what is made
of a template has at most one dot. -/
theorem Touches.keeps (h : r.Touches directory t stop u) :
    Keeps (r.output directory ++ [Config.fileName]) t u := by
  cases h with
  | created => exact createAlong_keeps
  | @written front stem content hname hdots hfront hway hat =>
      refine put_keeps (by simp) ?_ hat
      intro hplace
      obtain ⟨-, hlast⟩ := List.append_inj' ((List.append_cancel_left hplace).trans
        (List.nil_append _).symm) rfl
      rw [List.singleton_inj.1 hlast] at hdots
      exact absurd hdots (by decide)
  | nothing => exact .refl _ t

/-- What is made has a name. -/
theorem Touches.named (ht : t.Named) (hnames : ∀ name ∈ stop.names, IsName name)
    (h : r.Touches directory t stop u) : u.Named := by
  cases h with
  | created =>
      have hparts : ∀ p ∈ parts r.outputRoot ++ stop.names, IsPart p := fun p hp =>
        (List.mem_append.1 hp).elim isPart_of_mem_parts fun hp => (hnames p hp).isPart
      exact ht.createAlong hparts
  | @written front stem content hname hdots hfront hway hat =>
      rw [← List.append_assoc]
      exact ht.put hname
  | nothing => exact ht

/-- **A walk keeps the saved configuration**, also if it fails half way. -/
theorem tour_keeps_saved {root : Place} {path : String} {depth : Nat}
    (houtput : r.outputRoot ≠ "") (ht : t.Named) (hstop : stop.Named path) :
    Keeps (r.output directory ++ [Config.fileName]) t
      (r.tour directory root depth t stop).2 := by
  refine (tour_keeps
    (P := fun v => v.Named ∧ Keeps (r.output directory ++ [Config.fileName]) t v)
    (Q := Stop.Named path) ?_ ?_ ⟨ht, .refl _ t⟩ hstop).2
  · rintro v s ⟨hv, hkeeps⟩ hs
    have htouches : r.Touches directory v s _ := visit_touches houtput hs
    exact ⟨htouches.named hv hs.isName, hkeeps.trans htouches.keeps⟩
  · rintro v s ⟨hv, -⟩ hs child hchild
    obtain ⟨hpath, hat⟩ := Stop.StandsIn.of_mem_listing hs.path_eq hchild
    obtain ⟨-, name, entry, -, rfl⟩ := mem_listing.1 hchild
    refine ⟨hpath, fun n hn => ?_⟩
    rcases List.mem_append.1 hn with hn | hn
    · exact hs.isName n hn
    · rw [List.mem_singleton.1 hn]
      rw [Stop.onward, ← List.append_assoc] at hat
      exact hv _ _ _ hat

end Rendition

namespace Generation

variable {r : Generation} {t : FileTree} {directory : Place}

/-- The saved configuration is in the directory that is generated into. -/
theorem output_append_fileName (r : Generation) (directory : Place) :
    r.output directory ++ [Config.fileName] = Config.placeIn directory r.outputDir := by
  have hpart := Config.isName_fileName.isPart
  rw [Config.placeIn, Config.pathIn, origin, isAbsolute_join _ hpart, parts_join _ hpart,
    destination_append, destination_name _ Config.isName_fileName.ne_dot
      Config.isName_fileName.ne_dots, output, outputRoot]
  split
  · rename_i hempty
    rw [String.isEmpty_iff.1 hempty]
    rfl
  · rfl

/-- **A generation keeps the saved configuration**, also if it fails half way. -/
theorem generate_keeps (ht : t.WellFormed) :
    Keeps (Config.placeIn directory r.outputDir) t (r.generate t directory).2 := by
  rw [← output_append_fileName]
  unfold generate
  split
  · exact .refl _ t
  · rename_i rendition hprepare
    have houtput : rendition.output directory = r.output directory := by
      rw [Rendition.output, output, outputRoot_of_prepare hprepare]
    rw [← houtput, Rendition.renderTree]
    split
    · rename_i root start hstart
      obtain ⟨-, hnames, hpath, -, -⟩ := start_eq_ok_iff.1 hstart
      have hnamed : start.Named r.templateRoot := ⟨by rw [hpath, hnames]; rfl, by simp [hnames]⟩
      exact Rendition.tour_keeps_saved (outputRoot_ne_empty_of_prepare hprepare) ht.named hnamed
    · exact .refl _ t

end Generation

/-! ## Runs -/

/-- Between two worlds the saved configuration of an output has neither come, nor changed, nor gone,
and what was read from it is still read. -/
structure World.KeepsSaved (output : String) (w w' : World) : Prop where
  directory : w'.directory = w.directory
  file : ∀ content, w'.tree.at? (Config.placeIn w.directory output) = some (.file content) ↔
    w.tree.at? (Config.placeIn w.directory output) = some (.file content)
  reads : ∀ content,
    w.tree.readBytes w.directory (Config.pathIn output) = .ok content →
      w'.tree.readBytes w'.directory (Config.pathIn output) = .ok content

theorem World.keepsSaved_of_keeps {output : String} {w w' : World}
    (h : Keeps (Config.placeIn w.directory output) w.tree w'.tree)
    (hdirectory : w'.directory = w.directory) : w.KeepsSaved output w' :=
  ⟨hdirectory, h.file, fun _ hread => by rw [hdirectory]; exact h.readBytes hread⟩

theorem World.keepsSaved_of_eq {output : String} {w w' : World} (htree : w'.tree = w.tree)
    (hdirectory : w'.directory = w.directory) : w.KeepsSaved output w' :=
  World.keepsSaved_of_keeps (by rw [htree]; exact .refl _ _) hdirectory

theorem World.KeepsSaved.trans {output : String} {u v w : World} (h : u.KeepsSaved output v)
    (h' : v.KeepsSaved output w) : u.KeepsSaved output w := by
  have hfile := h'.file
  rw [h.directory] at hfile
  exact ⟨h'.directory.trans h.directory, fun content => (hfile content).trans (h.file content),
    fun content hread => h'.reads content (h.reads content hread)⟩

/-- The errors of everything that comes before the generation. -/
def CommandError.PrecedesGeneration : CommandError → Prop
  | .configuration .missingSource | .configuration .missingLanguage | .format _ | .codec _
  | .specification .. | .rejected _ => True
  | _ => False

namespace Config

variable {c : Config} {output : String} {w w' : World}

/-- **A configuration that cannot be saved** leaves the saved one as it was. -/
theorem save_error {e : ConfigError} (h : (c.save output).run.run w = (.error e, w')) :
    w.KeepsSaved output w' ∧ (e = .noDirectory output ∨ e = .unwritable (pathIn output)) := by
  have hkeeps : Keeps (placeIn w.directory output) w.tree
      (w.tree.ensureDirectories w.directory output).2 := createAlong_keeps
  unfold save at h
  rw [Action.run_bind, Action.run_mapError, Action.run_work] at h
  rcases hcreate : w.tree.ensureDirectories w.directory output with ⟨fault | _, tree⟩
  · rw [hcreate] at h hkeeps
    obtain ⟨herror, rfl⟩ := Prod.mk.inj h
    exact ⟨World.keepsSaved_of_keeps hkeeps rfl, Or.inl (Except.error.inj herror).symm⟩
  · rw [hcreate] at h hkeeps
    simp only [Except.mapError, Action.run_mapError, Action.run_change] at h
    cases hwrite : tree.writeText w.directory (pathIn output) c.toText with
    | ok tree' =>
        rw [hwrite] at h
        cases h
    | error fault =>
        rw [hwrite] at h
        obtain ⟨herror, rfl⟩ := Prod.mk.inj h
        exact ⟨World.keepsSaved_of_keeps hkeeps rfl, Or.inr (Except.error.inj herror).symm⟩

theorem resolve_error {e : ConfigError} (h : c.resolve = .error e) :
    e = .missingSource ∨ e = .missingLanguage := by
  unfold resolve at h
  split at h
  · exact Or.inl (Except.error.inj h).symm
  · exact Or.inr (Except.error.inj h).symm
  · cases h

theorem mapError_eq_error_iff {ε δ α : Type} {f : ε → δ} {x : Except ε α} {e : δ} :
    x.mapError f = .error e ↔ ∃ cause, x = .error cause ∧ f cause = e := by
  cases x <;> simp [Except.mapError]

/-- What can go wrong while a generation is planned. -/
theorem plan_raises (c : Config) (output : String) :
    (c.plan output).Raises CommandError.PrecedesGeneration := by
  refine Action.Raises.bind (Action.raises_ofExcept fun e he => ?_) fun settings => ?_
  · obtain ⟨cause, hcause, rfl⟩ := mapError_eq_error_iff.1 he
    rcases resolve_error hcause with rfl | rfl
    · trivial
    · trivial
  refine Action.Raises.bind (Action.raises_ofExcept fun e he => ?_) fun format => ?_
  · obtain ⟨cause, -, rfl⟩ := mapError_eq_error_iff.1 he
    trivial
  refine Action.Raises.bind (fun w e he => by cases he) fun w => ?_
  refine Action.Raises.bind (Action.raises_ofExcept fun e he => ?_) fun codec => ?_
  · obtain ⟨cause, -, rfl⟩ := mapError_eq_error_iff.1 he
    trivial
  refine Action.Raises.bind (Action.raises_mapError (fun _ => trivial) _) fun api => ?_
  refine Action.Raises.bind (Action.raises_ofExcept fun e he => ?_) fun _ w e he => by cases he
  obtain ⟨cause, -, rfl⟩ := mapError_eq_error_iff.1 he
  trivial

/-- What is planned is a generation into the output. -/
theorem outputDir_of_plan {r : Generation} (h : (c.plan output).run.run w = (.ok r, w')) :
    r.outputDir = output := by
  obtain ⟨settings, _, -, h⟩ := Action.run_bind_ok h
  obtain ⟨format, _, -, h⟩ := Action.run_bind_ok h
  obtain ⟨start, _, -, h⟩ := Action.run_bind_ok h
  obtain ⟨codec, _, -, h⟩ := Action.run_bind_ok h
  obtain ⟨api, _, -, h⟩ := Action.run_bind_ok h
  obtain ⟨_, _, -, h⟩ := Action.run_bind_ok h
  obtain ⟨hplanned, -⟩ := Prod.mk.inj h
  rw [← Except.ok.inj hplanned]

/-- What a generation leaves behind, whether it succeeds or not. -/
theorem keepsSaved_of_run {r : Generation} (hr : r.outputDir = output) (ht : w.tree.WellFormed) :
    w.KeepsSaved output (r.run.run.run w).2 := by
  rw [Generation.run, Action.run_work]
  refine World.keepsSaved_of_keeps ?_ rfl
  rw [← hr]
  exact Generation.generate_keeps ht

/-- **The configuration is saved when the generation has succeeded**, and until then the saved one
is as it was. -/
theorem carryOut_keepsSaved {r : Generation} (hr : r.outputDir = output)
    (ht : w.tree.WellFormed) :
    (∀ e w', (c.carryOut output r).run.run w = (.error e, w') →
      ¬e.PrecedesGeneration ∧ w.KeepsSaved output w') ∧
    ∀ w', (c.carryOut output r).run.run w = (.ok (), w') →
      ∃ generated, r.run.run.run w = (.ok (), generated) ∧ w.KeepsSaved output generated ∧
        (c.save output).run.run generated = (.ok (), w') := by
  have hkeeps := keepsSaved_of_run hr ht
  rw [carryOut, Action.run_bind, Action.run_mapError]
  rcases hrun : r.run.run.run w with ⟨e | _, generated⟩
  · rw [hrun] at hkeeps
    refine ⟨fun e' w' h => ?_, fun w' h => by cases h⟩
    obtain ⟨he, rfl⟩ := Prod.mk.inj h
    rw [← Except.error.inj he]
    exact ⟨id, hkeeps⟩
  · rw [hrun] at hkeeps
    refine ⟨fun e w' h => ?_, fun w' h => ⟨generated, rfl, hkeeps, Action.run_mapError_ok h⟩⟩
    rcases hsave : (c.save output).run.run generated with ⟨cause | _, v⟩
    · obtain ⟨hsaved, hcause⟩ := save_error hsave
      simp only [Except.mapError, Action.run_mapError, hsave] at h
      obtain ⟨he, rfl⟩ := Prod.mk.inj h
      refine ⟨?_, hkeeps.trans hsaved⟩
      rw [← Except.error.inj he]
      rcases hcause with rfl | rfl
      · exact id
      · exact id
    · simp only [Except.mapError, Action.run_mapError, hsave] at h
      cases h

/-- **What a run leaves behind.**  If it fails before the generation, all files are as they were.
However it fails, the saved configuration is as it was.  If it succeeds, it has planned and
generated without a change to the saved configuration, and has then saved its own, which is what is
loaded from now on. -/
theorem generate_safeguards (c : Config) (output : String) (ht : w.tree.WellFormed) :
    (∀ e w', (c.generate output).run.run w = (.error e, w') →
      (e.PrecedesGeneration ↔ (c.plan output).run.run w = (.error e, w')) ∧
        (e.PrecedesGeneration → w'.tree = w.tree) ∧ w.KeepsSaved output w') ∧
    ∀ w', (c.generate output).run.run w = (.ok (), w') →
      ∃ r planned generated, (c.plan output).run.run w = (.ok r, planned) ∧
        planned.tree = w.tree ∧ r.run.run.run planned = (.ok (), generated) ∧
        w.KeepsSaved output generated ∧ (c.save output).run.run generated = (.ok (), w') ∧
        c.SavedIn output w' ∧ (Config.load output).run.run w' = (.ok c, w') := by
  obtain ⟨htree, hdirectory⟩ := plan_unchanged c output w ht
  rw [generate_eq_plan, Action.run_bind]
  rcases hplan : (c.plan output).run.run w with ⟨e | r, planned⟩
  · -- nothing has been done
    rw [hplan] at htree hdirectory
    have hprecedes := plan_raises c output w e (congrArg Prod.fst hplan)
    have hkeeps : w.KeepsSaved output planned := World.keepsSaved_of_eq htree hdirectory
    refine ⟨fun e' w' h => ?_, fun w' h => by cases h⟩
    obtain ⟨he, rfl⟩ := Prod.mk.inj h
    obtain rfl := Except.error.inj he
    exact ⟨iff_of_true hprecedes rfl, fun _ => htree, hkeeps⟩
  · rw [hplan] at htree hdirectory
    have hkeeps : w.KeepsSaved output planned := World.keepsSaved_of_eq htree hdirectory
    have hplanned : planned.tree.WellFormed := htree ▸ ht
    obtain ⟨hfails, hsucceeds⟩ := carryOut_keepsSaved (c := c) (outputDir_of_plan hplan) hplanned
    refine ⟨fun e w' h => ?_, fun w' h => ?_⟩
    · obtain ⟨hlater, hsaved⟩ := hfails e w' h
      exact ⟨iff_of_false hlater fun he => (nomatch he), fun he => absurd he hlater,
        hkeeps.trans hsaved⟩
    · obtain ⟨generated, hrun, hgenerated, hsave⟩ := hsucceeds w' h
      have hsaved := savedIn_of_save hsave
      exact ⟨r, planned, generated, rfl, htree, hrun, hkeeps.trans hgenerated, hsave, hsaved,
        hsaved.load c.loadsBack⟩

/-- A shop with a saved configuration, in which the second template includes one that is missing. -/
def tornShop : World :=
  { shopWorld with
    tree :=
      { entries := Table.ofList
          [(["work"], .directory), (["work", "out"], .directory),
            (["work", "out", ".sidekick.toml"], .file (Text.Utf8.encode shopText)),
            (["work", "templates"], .directory), (["work", "templates", "go"], .directory),
            (["work", "templates", "go", "a.txt.jinja2"], .file (Text.Utf8.encode "first")),
            (["work", "templates", "go", "b.txt.jinja2"],
              .file (Text.Utf8.encode "\x7b% include \"gone.txt\" %\x7d")),
            (["work", "tmp"], .directory)] } }

/-- Where the generation fails half way the saved configuration is still there; where it succeeds
the new one is. -/
theorem tornShop_safeguarded :
    (∃ w', (shopConfig.generate "out").run.run tornShop
        = (.error (.generation (.render "b.txt.jinja2")), w') ∧
      w'.tree.at? ["work", "out", "a.txt"] = some (.file (Text.Utf8.encode "first")) ∧
      w'.tree.at? ["work", "out", ".sidekick.toml"]
        = some (.file (Text.Utf8.encode shopText))) ∧
    ∃ w', (shopConfig.generate "out").run.run shopWorld = (.ok (), w') ∧
      (Config.load "out").run.run w' = (.ok shopConfig, w') := by
  have htorn : tornShop.tree.WellFormed := ⟨by decide +kernel, by decide +kernel⟩
  have hshop : shopWorld.tree.WellFormed := ⟨by decide +kernel, by decide +kernel⟩
  obtain ⟨hfails, hmade⟩ :
      ((shopConfig.generate "out").run.run tornShop).1
          = .error (.generation (.render "b.txt.jinja2")) ∧
        ((shopConfig.generate "out").run.run tornShop).2.tree.at? ["work", "out", "a.txt"]
          = some (.file (Text.Utf8.encode "first")) := by decide +kernel
  have hsucceeds : ((shopConfig.generate "out").run.run shopWorld).1 = .ok () := by decide +kernel
  have hplace : placeIn tornShop.directory "out" = ["work", "out", ".sidekick.toml"] := by
    decide +kernel
  have hsaved : tornShop.tree.at? ["work", "out", ".sidekick.toml"]
      = some (.file (Text.Utf8.encode shopText)) := by decide +kernel
  obtain ⟨-, -, hkeeps⟩ := (generate_safeguards shopConfig "out" htorn).1 _ _ (eq_of_fst hfails)
  have hfile := hkeeps.file (Text.Utf8.encode shopText)
  rw [hplace] at hfile
  obtain ⟨_, _, _, -, -, -, -, -, -, hload⟩ :=
    (generate_safeguards shopConfig "out" hshop).2 _ (eq_of_fst hsucceeds)
  exact ⟨⟨_, eq_of_fst hfails, hmade, hfile.2 hsaved⟩, _, eq_of_fst hsucceeds, hload⟩

end Config

end ClientGen
