import ClientGen.Project.Command
import ClientGen.Proofs.Places

/-!
# A refresh replays the run that it follows

The configuration that a library was generated with is the one of the flags over the one of the
project, and it is saved next to the library.  A refresh lays it over the one of the project once
more, which changes nothing, since layers that are laid over each other twice are the same layers.

* `Config.merge_assoc`, `Config.merge_self`, `Config.merge_default`, `Config.default_merge` — the
  laws of layers.
* `Config.savedIn_of_generate` — a generation that succeeds has saved its configuration.
* `refresh_eq_generate` — what a refresh does where a configuration is saved.
* `refresh_replays` — all refreshes after a generation use its configuration and save it again.
-/

namespace ClientGen

universe u v

/-! ## Layers -/

namespace Table

variable {κ : Type u} {α : Type v} [Ord κ] [Std.TransOrd κ] [Std.LawfulEqOrd κ]

theorem get?_insertAll_ascending [DecidableEq κ] {l : List (κ × α)} (h : Entries.Ascending l)
    (t : Table κ α) (k : κ) : (t.insertAll l).get? k = (Entries.find? k l).or (t.get? k) := by
  induction l generalizing t with
  | nil => rfl
  | cons e l ih =>
      obtain ⟨k', value⟩ := e
      obtain ⟨hhead, htail⟩ := List.pairwise_cons.1 h
      have hstep : t.insertAll ((k', value) :: l) = (t.insert k' value).insertAll l := rfl
      rw [hstep, ih htail, get?_insert']
      by_cases hk : k = k'
      · subst hk
        have hfirst : Entries.find? k ((k, value) :: l) = some value :=
          Entries.find?_of_mem h (List.mem_cons_self ..)
        have hlater : Entries.find? k l = none := by
          refine Option.eq_none_iff_forall_ne_some.2 fun other hother => ?_
          have hlt := hhead _ (Entries.mem_of_find? hother)
          have hself : compare k k = .eq := Std.ReflCmp.compare_self
          rw [hself] at hlt
          cases hlt
        rw [hfirst, hlater, if_pos rfl]
        rfl
      · have hsame : Entries.find? k ((k', value) :: l) = Entries.find? k l := by
          refine Option.ext fun other => ?_
          constructor
          · intro hother
            rcases List.mem_cons.1 (Entries.mem_of_find? hother) with heq | hmem
            · exact absurd (Prod.mk.inj heq).1 hk
            · exact Entries.find?_of_mem htail hmem
          · intro hother
            exact Entries.find?_of_mem h (List.mem_cons_of_mem _ (Entries.mem_of_find? hother))
        rw [if_neg hk, hsame]

/-- **Where both tables have a key the upper one decides.** -/
theorem get?_overlay [DecidableEq κ] (lower upper : Table κ α) (k : κ) :
    (lower.overlay upper).get? k = (upper.get? k).or (lower.get? k) :=
  get?_insertAll_ascending upper.ascending lower k

variable [DecidableEq κ]

theorem overlay_assoc (a b c : Table κ α) :
    (a.overlay b).overlay c = a.overlay (b.overlay c) := by
  refine ext_get? fun k => ?_
  simp only [get?_overlay, Option.or_assoc]

theorem overlay_self (a : Table κ α) : a.overlay a = a := by
  refine ext_get? fun k => ?_
  rw [get?_overlay, Option.or_self]

omit [DecidableEq κ] in
theorem overlay_empty (a : Table κ α) : a.overlay ∅ = a := rfl

theorem empty_overlay (a : Table κ α) : (∅ : Table κ α).overlay a = a := by
  refine ext_get? fun k => ?_
  rw [get?_overlay]
  exact Option.or_none

end Table

namespace Config

/-- Layers can be laid over each other in any grouping. -/
theorem merge_assoc (a b c : Config) : (a.merge b).merge c = a.merge (b.merge c) := by
  simp only [merge, GeneralSettings.merge, Table.overlay_assoc, Option.or_assoc]

/-- A layer over itself is the same layer. -/
theorem merge_self (c : Config) : c.merge c = c := by
  simp only [merge, GeneralSettings.merge, Table.overlay_self, Option.or_self]

/-- The empty layer over another one changes nothing. -/
theorem merge_default (c : Config) : c.merge {} = c := by
  simp only [merge, GeneralSettings.merge, Table.overlay_empty, Option.none_or]

/-- A layer over the empty one decides everything. -/
theorem default_merge (c : Config) : Config.merge {} c = c := by
  simp only [merge, GeneralSettings.merge, Table.empty_overlay, Option.or_none]

/-- To lay over a project what was already laid over it changes nothing. -/
theorem merge_merge_self (project upper : Config) :
    project.merge (project.merge upper) = project.merge upper := by
  rw [← merge_assoc, merge_self]

end Config

/-! ## Runs of actions -/

namespace Action

variable {ε δ α β : Type} {w w' : World}

theorem run_bind (a : Action ε α) (f : α → Action ε β) (w : World) :
    (a >>= f).run.run w =
      match a.run.run w with
      | (.ok x, v) => (f x).run.run v
      | (.error e, v) => (.error e, v) := by
  rw [ExceptT.run_bind, StateT.run_bind]
  rcases a.run.run w with ⟨_ | _, _⟩ <;> rfl

/-- An action that succeeds has succeeded in both halves. -/
theorem run_bind_ok {a : Action ε α} {f : α → Action ε β} {b : β}
    (h : (a >>= f).run.run w = (.ok b, w')) :
    ∃ x v, a.run.run w = (.ok x, v) ∧ (f x).run.run v = (.ok b, w') := by
  rw [run_bind] at h
  split at h
  · rename_i x v hfirst
    exact ⟨x, v, hfirst, h⟩
  · cases h

theorem run_mapError (f : ε → δ) (a : Action ε α) (w : World) :
    (a.mapError f).run.run w = ((a.run.run w).1.mapError f, (a.run.run w).2) :=
  rfl

theorem run_mapError_ok {f : ε → δ} {a : Action ε α} {x : α}
    (h : (a.mapError f).run.run w = (.ok x, w')) : a.run.run w = (.ok x, w') := by
  rw [run_mapError] at h
  rcases hrun : a.run.run w with ⟨e | y, v⟩
  · rw [hrun] at h
    cases h
  · rw [hrun] at h
    cases h
    rfl

theorem run_get (f : World → Action ε β) (w : World) :
    ((get : Action ε World) >>= f).run.run w = (f w).run.run w :=
  rfl

/-- What a change that succeeds has done. -/
theorem run_change_ok {f : FileTree → Place → Except FileFault FileTree}
    (h : (change f).run.run w = (.ok (), w')) :
    ∃ tree, f w.tree w.directory = .ok tree ∧ w' = { w with tree } := by
  unfold change at h
  rw [run_get] at h
  cases hchange : f w.tree w.directory with
  | error fault =>
      rw [hchange] at h
      cases h
  | ok tree =>
      rw [hchange] at h
      exact ⟨tree, rfl, (Prod.mk.inj h).2.symm⟩

end Action

/-! ## Saved configurations -/

namespace FileTree

open ClientGen.Path Place

variable {t u : FileTree} {directory : Place} {path : String}

/-- **What was written is read again.** -/
theorem readBytes_of_writeText {text : String} (h : t.writeText directory path text = .ok u) :
    u.readBytes directory path = .ok (Text.Utf8.encode text) := by
  obtain ⟨place, hlocate, hpromises, hat, -, rfl⟩ := writeText_eq_ok_iff.1 h
  have hne : place ≠ [] := by
    rintro rfl
    exact hat rfl
  have hlocate' : (t.put place (.file (Text.Utf8.encode text))).locate directory path
      = .ok place := by
    obtain ⟨hpath, hstages, hplace⟩ := locate_eq_ok_iff.1 hlocate
    refine locate_eq_ok_iff.2 ⟨hpath, fun stage hstage => ?_, hplace⟩
    have hthere := hstages stage hstage
    have hother : stage ≠ place := by
      rintro rfl
      exact hat hthere
    rw [at?_put hne, if_neg hother, hthere]
  simp [readBytes, look, hlocate', at?_put hne, hpromises]

theorem pathExists_of_readBytes {content : List UInt8}
    (h : t.readBytes directory path = .ok content) : t.pathExists directory path = true := by
  unfold readBytes at h
  unfold pathExists
  cases hlook : t.look directory path with
  | error fault =>
      rw [hlook] at h
      cases h
  | ok entry => rfl

/-- Paths to the same place read the same. -/
theorem readBytes_congr {path' : String}
    (hlocate : t.locate directory path = t.locate directory path')
    (hpromises : promisesDirectory path = promisesDirectory path') :
    t.readBytes directory path = t.readBytes directory path' := by
  rw [readBytes, readBytes, look, look, hlocate, hpromises]

end FileTree

namespace Config

variable {c : Config} {dir output : String} {w w' : World}

theorem promisesDirectory_pathIn (dir : String) :
    FileTree.promisesDirectory (pathIn dir) = false :=
  promisesDirectory_join dir (by decide)

/-- The saved form of a layer is read as that layer. -/
def LoadsBack (c : Config) : Prop :=
  ∃ text, Text.Utf8.decode? (Text.Utf8.encode c.toText) = some text ∧ ofText text = .ok c

/-- The file of a directory is what is written when a layer is saved there. -/
def SavedIn (c : Config) (dir : String) (w : World) : Prop :=
  w.tree.readBytes w.directory (pathIn dir) = .ok (Text.Utf8.encode c.toText)

/-- The layer that a file holds is loaded. -/
theorem load_of_readBytes {content : List UInt8} {text : String}
    (h : w.tree.readBytes w.directory (pathIn dir) = .ok content)
    (hdecode : Text.Utf8.decode? content = some text) (htext : ofText text = .ok c) :
    (Config.load dir).run.run w = (.ok c, w) := by
  have hread : w.tree.readText w.directory (pathIn dir) = .ok text := by
    rw [FileTree.readText, h]
    simp only [hdecode]
  unfold Config.load
  rw [Action.run_get]
  simp [FileTree.pathExists_of_readBytes h, hread, htext]
  rfl

/-- A layer that was saved is loaded. -/
theorem SavedIn.load (h : c.SavedIn dir w) (hback : c.LoadsBack) :
    (Config.load dir).run.run w = (.ok c, w) := by
  obtain ⟨text, hdecode, htext⟩ := hback
  exact load_of_readBytes h hdecode htext

/-- Saving a layer puts it there. -/
theorem savedIn_of_save (h : (c.save dir).run.run w = (.ok (), w')) : c.SavedIn dir w' := by
  obtain ⟨-, v, -, hwrite⟩ := Action.run_bind_ok h
  obtain ⟨tree, hwritten, rfl⟩ := Action.run_change_ok (Action.run_mapError_ok hwrite)
  exact FileTree.readBytes_of_writeText hwritten

/-- **A generation that succeeds has saved its configuration.** -/
theorem savedIn_of_generate (h : (c.generate output).run.run w = (.ok (), w')) :
    c.SavedIn output w' := by
  unfold generate at h
  obtain ⟨settings, _, -, h⟩ := Action.run_bind_ok h
  obtain ⟨format, _, -, h⟩ := Action.run_bind_ok h
  obtain ⟨start, _, -, h⟩ := Action.run_bind_ok h
  obtain ⟨codec, _, -, h⟩ := Action.run_bind_ok h
  obtain ⟨api, _, -, h⟩ := Action.run_bind_ok h
  obtain ⟨_, _, -, h⟩ := Action.run_bind_ok h
  obtain ⟨_, _, -, h⟩ := Action.run_bind_ok h
  exact savedIn_of_save (Action.run_mapError_ok h)

end Config

/-! ## Refreshes -/

/-- Nobody has touched the saved configuration of an output, and the configuration of the project is
what it was; where the file of the project is the saved one, that says enough. -/
structure World.Untouched (output : String) (project : Config) (before after : World) : Prop where
  saved : after.tree.readBytes after.directory (Config.pathIn output)
    = before.tree.readBytes before.directory (Config.pathIn output)
  project : (Config.load projectDir).run.run after = (.ok project, after) ∨
    after.tree.locate after.directory (Config.pathIn projectDir)
      = after.tree.locate after.directory (Config.pathIn output)

/-- The worlds that any number of refreshes of an output lead to.  Between two of them others may do
what they like, but for the saved configuration and that of the project. -/
inductive Refreshed (output : String) (project : Config) (start : World) : World → Prop
  | start : Refreshed output project start start
  | again {before between after : World} (hbefore : Refreshed output project start before)
      (huntouched : World.Untouched output project before between)
      (hrefresh : (refresh output).run.run between = (.ok (), after)) :
      Refreshed output project start after

variable {output : String} {project upper c : Config} {w w' : World}

/-- **What a refresh does**: it generates with the saved configuration over that of the project. -/
theorem refresh_eq_generate {saved : Config} (hsaved : saved.SavedIn output w)
    (hback : saved.LoadsBack) (hproject : (Config.load projectDir).run.run w = (.ok project, w)) :
    (refresh output).run.run w = ((project.merge saved).generate output).run.run w := by
  unfold refresh
  rw [Action.run_get]
  simp only [FileTree.pathExists_of_readBytes hsaved, Bool.not_true, Bool.false_eq_true, if_false]
  rw [Action.run_bind, Action.run_mapError, hproject]
  simp only [Except.mapError]
  rw [Action.run_bind, Action.run_mapError, hsaved.load hback]
  rfl

/-- A refresh where nobody has touched what was saved for a configuration over that of the project
generates with this configuration. -/
theorem refresh_of_untouched (hsaved : (project.merge upper).SavedIn output w)
    (hback : (project.merge upper).LoadsBack) (huntouched : World.Untouched output project w w') :
    (refresh output).run.run w' = ((project.merge upper).generate output).run.run w' := by
  have hsaved' : (project.merge upper).SavedIn output w' := huntouched.saved.trans hsaved
  rcases huntouched.project with hproject | hsame
  · rw [refresh_eq_generate hsaved' hback hproject, Config.merge_merge_self]
  · -- the file of the project is the saved one
    have hpromises : FileTree.promisesDirectory (Config.pathIn projectDir)
        = FileTree.promisesDirectory (Config.pathIn output) := by
      rw [Config.promisesDirectory_pathIn, Config.promisesDirectory_pathIn]
    have hproject : (project.merge upper).SavedIn projectDir w' :=
      (FileTree.readBytes_congr hsame hpromises).trans hsaved'
    rw [refresh_eq_generate hsaved' hback (hproject.load hback), Config.merge_self]

/-- **Refreshes replay the run that they follow.**  Layers form a monoid in which every element is
idempotent.  So if the command `generate` succeeds over a project configuration, each of the
refreshes that follow generates with exactly the configuration of that run, and saves it unchanged
if it succeeds. -/
theorem refresh_replays {f : GenerateFlags}
    (hproject : (Config.load projectDir).run.run w = (.ok project, w))
    (hback : (project.merge f.toConfig).LoadsBack) (hrun : f.run.run.run w = (.ok (), w')) :
    ((∀ a b c : Config, (a.merge b).merge c = a.merge (b.merge c)) ∧
        (∀ c : Config, c.merge c = c) ∧ ∀ c : Config, c.merge {} = c ∧ Config.merge {} c = c) ∧
      (f.run.run.run w = ((project.merge f.toConfig).generate f.output).run.run w ∧
        (project.merge f.toConfig).SavedIn f.output w') ∧
      ∀ before, Refreshed f.output project w' before → ∀ between,
        World.Untouched f.output project before between →
          (refresh f.output).run.run between
              = ((project.merge f.toConfig).generate f.output).run.run between ∧
            ∀ after, (refresh f.output).run.run between = (.ok (), after) →
              (project.merge f.toConfig).SavedIn f.output after := by
  have hfirst : f.run.run.run w = ((project.merge f.toConfig).generate f.output).run.run w := by
    unfold GenerateFlags.run
    rw [Action.run_bind, Action.run_mapError, hproject]
    rfl
  have hsaved : (project.merge f.toConfig).SavedIn f.output w' :=
    Config.savedIn_of_generate (hfirst.symm.trans hrun)
  refine ⟨⟨Config.merge_assoc, Config.merge_self,
    fun c => ⟨Config.merge_default c, Config.default_merge c⟩⟩, ⟨hfirst, hsaved⟩, ?_⟩
  -- one more refresh, from a world in which the configuration is saved
  have hstep : ∀ before between, (project.merge f.toConfig).SavedIn f.output before →
      World.Untouched f.output project before between →
        (refresh f.output).run.run between
            = ((project.merge f.toConfig).generate f.output).run.run between ∧
          ∀ after, (refresh f.output).run.run between = (.ok (), after) →
            (project.merge f.toConfig).SavedIn f.output after := by
    intro before between hbefore huntouched
    have hsame := refresh_of_untouched hbefore hback huntouched
    exact ⟨hsame, fun after hafter => Config.savedIn_of_generate (hsame.symm.trans hafter)⟩
  intro before hrefreshed
  have hbefore : (project.merge f.toConfig).SavedIn f.output before := by
    induction hrefreshed with
    | start => exact hsaved
    | again _ huntouched hrefresh ih => exact (hstep _ _ ih huntouched).2 _ hrefresh
  exact fun between huntouched => hstep before between hbefore huntouched

/-! ## A project of one file -/

/-- The text of a project that only names its language. -/
def shopText : String := "[general]\nlanguage = \"go\"\n"

/-- A working directory with the project and an empty template directory. -/
def shopWorld : World where
  tree :=
    { entries := Table.ofList
        [(["work"], .directory),
          (["work", ".sidekick.toml"], .file (Text.Utf8.encode shopText)),
          (["work", "templates"], .directory),
          (["work", "templates", "go"], .directory),
          (["work", "tmp"], .directory)] }
  directory := ["work"]
  temporary := "tmp"
  compiler := some fun _ _ _ => { status := .code 0, output := .written [] }
  currentYear := "2024"

/-- Flags that add what the project leaves open. -/
def shopFlags (output : String) : GenerateFlags where
  general := { specificationSource := some "shop.proto" }
  output

/-- The configuration of the project. -/
def shopProject : Config where
  general := { language := some "go" }

/-- The configuration that both make. -/
def shopConfig : Config where
  general := { specificationSource := some "shop.proto", language := some "go" }

theorem shopConfig_loadsBack : shopConfig.LoadsBack := by
  have hboth : ((Text.Utf8.decode? (Text.Utf8.encode shopConfig.toText)).bind fun text =>
      (Config.ofText text).toOption) = some shopConfig := by decide +kernel
  obtain ⟨text, hdecode, htext⟩ := Option.bind_eq_some_iff.1 hboth
  refine ⟨text, hdecode, ?_⟩
  cases hread : Config.ofText text with
  | error e =>
      rw [hread] at htext
      cases htext
  | ok c =>
      rw [hread] at htext
      rw [Option.some.inj htext]

theorem shopText_loaded {w : World}
    (h : w.tree.readBytes w.directory (Config.pathIn projectDir)
      = .ok (Text.Utf8.encode shopText)) :
    (Config.load projectDir).run.run w = (.ok shopProject, w) := by
  have hdecode : Text.Utf8.decode? (Text.Utf8.encode shopText) = some shopText := by
    decide +kernel
  exact Config.load_of_readBytes h hdecode (by decide +kernel)

/-- The library of the shop can be generated and then refreshed, with the same configuration. -/
def ShopReplays (output : String) : Prop :=
  ∃ first second, (shopFlags output).run.run.run shopWorld = (.ok (), first) ∧
    World.Untouched output shopProject first first ∧
    (refresh output).run.run first = (.ok (), second) ∧
    (refresh output).run.run first
      = ((shopProject.merge (shopFlags output).toConfig).generate output).run.run first ∧
    (shopProject.merge (shopFlags output).toConfig).SavedIn output second

/-- The output has a directory of its own, or is that of the project. -/
theorem shop_replayed : ShopReplays "out" ∧ ShopReplays "." := by
  suffices hall : ∀ output ∈ ["out", "."], ShopReplays output from
    ⟨hall "out" (by decide), hall "." (by decide)⟩
  intro output houtput
  have hmerge : shopProject.merge (shopFlags output).toConfig = shopConfig := by
    change shopProject.merge (shopFlags "").toConfig = shopConfig
    decide +kernel
  have hback : (shopProject.merge (shopFlags output).toConfig).LoadsBack := by
    rw [hmerge]
    exact shopConfig_loadsBack
  have hproject : (Config.load projectDir).run.run shopWorld = (.ok shopProject, shopWorld) :=
    shopText_loaded (by decide +kernel)
  have hresult : ∀ output ∈ ["out", "."],
      ((shopFlags output).run.run.run shopWorld).1 = .ok () ∧
        ((refresh output).run.run ((shopFlags output).run.run.run shopWorld).2).1 = .ok () ∧
        (output = "." ∨
          ((shopFlags output).run.run.run shopWorld).2.tree.readBytes
              ((shopFlags output).run.run.run shopWorld).2.directory (Config.pathIn projectDir)
            = .ok (Text.Utf8.encode shopText)) := by decide +kernel
  obtain ⟨hfirst, hsecond, hkept⟩ := hresult output houtput
  generalize hrun : (shopFlags output).run.run.run shopWorld = result at hfirst hsecond hkept
  obtain ⟨_, first⟩ := result
  obtain rfl := hfirst
  generalize hrefresh : (refresh output).run.run first = result at hsecond
  obtain ⟨_, second⟩ := result
  obtain rfl := hsecond
  have huntouched : World.Untouched output shopProject first first := by
    refine ⟨rfl, ?_⟩
    rcases hkept with rfl | hkept
    · exact Or.inr rfl
    · exact Or.inl (shopText_loaded hkept)
  obtain ⟨hsame, hsaved⟩ :=
    (refresh_replays hproject hback hrun).2.2 first .start first huntouched
  exact ⟨first, second, hrun, huntouched, hrefresh, hsame, hsaved second hrefresh⟩

end ClientGen
