import ClientGen.Proofs.Safeguards

/-!
# A compilation step by step

A compilation takes five steps, and each of them can fail for a reason of its own: what the file
tree allows, what the search for input files gives, how the compiler ends, and what it leaves of the
file that it was to write.  Several of the reasons can hold at once.

* `CompilationStep.Fails` — when a step fails, said of each step without the steps before it as far
  as it can be.
* `FileTree.look_temporary` — the path of the temporary file leads to what is at its place, whatever
  has been done there.
* `compileInputs_endsWith` — what the steps come to, one after the other.
* `compileInputs_exact` — a compilation leaves the files as they were, and its error is that of the
  first step that fails.
-/

namespace ClientGen

open ClientGen.Path Place FileTree

/-! ## The path of the temporary file -/

theorem isName_temporaryName (number : Nat) : IsName (temporaryName number) := by
  have hdigits : ∀ c ∈ (toString number).toList, c.isDigit = true := by
    intro c hc
    rw [Nat.toString_eq_repr, Nat.toList_repr] at hc
    exact Nat.isDigit_of_mem_toDigits (by decide) (by decide) hc
  have hlist : (temporaryName number).toList = "protoc-out-".toList ++ (toString number).toList :=
    String.toList_append
  have hslash : '/' ∉ (temporaryName number).toList := by
    rw [hlist, List.mem_append, not_or]
    exact ⟨by decide, fun h => absurd (hdigits _ h) (by decide)⟩
  have hfirst : (temporaryName number).toList.head? = some 'p' := by
    rw [hlist]
    rfl
  have hne : ∀ text : String, text.toList.head? ≠ some 'p' → temporaryName number ≠ text := by
    intro text htext h
    exact htext (h ▸ hfirst)
  exact ⟨⟨hne _ (by decide), hslash⟩, hne _ (by decide), hne _ (by decide)⟩

namespace FileTree

variable {t u : FileTree} {directory place : Place} {temporary path : String}

/-- What was there is still there after changes at a place where nothing was. -/
theorem OnlyAt.at?_of_some (h : OnlyAt place t u) (ht : t.WellFormed) (hplace : t.at? place = none)
    {q : Place} {entry : Entry} (hq : t.at? q = some entry) : u.at? q = some entry := by
  by_cases hne : q = []
  · rw [hne] at hq ⊢
    exact hq
  · rw [at?_of_ne_nil hne] at hq ⊢
    have hbelow : ¬place <+: q := by
      intro hbelow
      rw [ht.get?_below hplace hbelow] at hq
      cases hq
    rw [h.kept q hbelow, hq]

/-- A way that ends in a directory leads through directories only. -/
theorem stages_of_dropLast {place : Place} {parts : List String}
    (h : ∀ stage ∈ stages place parts.dropLast, t.at? stage = some .directory)
    (hend : t.at? (destination place parts) = some .directory) :
    ∀ stage ∈ stages place parts, t.at? stage = some .directory := by
  rcases List.eq_nil_or_concat' parts with rfl | ⟨front, last, rfl⟩
  · exact h
  · rw [List.dropLast_concat] at h
    intro stage hstage
    rw [stages_append, List.mem_append] at hstage
    rcases hstage with hstage | hstage
    · exact h stage hstage
    · rw [destination_append] at hend
      by_cases hdot : last = "."
      · simp [stages, hdot] at hstage
      · by_cases hdots : last = ".."
        · simp [stages, hdots] at hstage
        · rw [stages_name _ hdot hdots, stages, List.mem_singleton] at hstage
          rw [destination_name _ hdot hdots, destination] at hend
          rw [hstage, hend]

variable {created : FileTree}

theorem locate_temporary (ht : t.WellFormed)
    (hcreate : t.createTemporary directory temporary = .ok (place, path, created))
    (h : OnlyAt place t u) : u.locate directory path = .ok place := by
  obtain ⟨hcreated, parent, number, hlocate, rfl, rfl⟩ := createTemporary_ok hcreate
  obtain ⟨hparent, hnone, -⟩ := createFileAt_ok hcreated
  obtain ⟨-, hstages, rfl⟩ := locate_eq_ok_iff.1 hlocate
  rw [List.dropLast_concat] at hparent
  have hway := stages_of_dropLast hstages hparent
  have hname := isName_temporaryName number
  rw [locate_eq_ok_iff, origin, isAbsolute_join _ hname.isPart, parts_join _ hname.isPart,
    List.dropLast_concat]
  refine ⟨join_ne_empty _ hname.isPart, ?_, ?_⟩
  · intro stage hstage
    exact h.at?_of_some ht hnone (hway stage hstage)
  · rw [destination_append, destination_name _ hname.ne_dot hname.ne_dots]
    rfl

/-- **The path of a temporary file leads to its place**, whatever has been done there. -/
theorem look_temporary (ht : t.WellFormed)
    (hcreate : t.createTemporary directory temporary = .ok (place, path, created))
    (h : OnlyAt place t u) :
    u.look directory path = (u.at? place).elim (.error .notFound) .ok := by
  have hlocate := locate_temporary ht hcreate h
  obtain ⟨-, parent, number, -, -, rfl⟩ := createTemporary_ok hcreate
  have hpromises := promisesDirectory_join temporary (isName_temporaryName number)
  unfold look
  simp only [hlocate, hpromises]
  rcases u.at? place with _ | _ | content <;> rfl

end FileTree

/-! ## Steps that fail -/

/-- The steps of a compilation. -/
inductive CompilationStep where
  | temporaryFile
  | inputFiles
  | compiler
  | reading
  | decoding
deriving DecidableEq, Repr

/-- What the compiler leaves of the file that it was to write, which is empty at first; nothing if
it takes it away. -/
def CompilerOutput.content? : CompilerOutput → Option (List UInt8)
  | .untouched => some []
  | .written content => some content
  | .removed => none

/-- The tree that is searched for input files and given to the compiler: with an empty temporary
file, if it can be created. -/
def World.prepared (w : World) : FileTree :=
  match w.tree.createTemporary w.directory w.temporary with
  | .ok (_, _, tree) => tree
  | .error _ => w.tree

/-- There is a compiler, it is given the files that are found, and this is its run. -/
structure World.Compiles (w : World) (search : InputSearch) (options : Table String String)
    (files : List String) (run : CompilerRun) : Prop where
  found : search w.prepared w.directory = .ok files
  ran : ∃ place path tree compiler,
    w.tree.createTemporary w.directory w.temporary = .ok (place, path, tree) ∧
      w.compiler = some compiler ∧
      run = compiler w.prepared w.directory (compilerArgs path files options)

namespace CompilationStep

/-- All steps, in the order in which they are taken. -/
def inOrder : List CompilationStep :=
  [.temporaryFile, .inputFiles, .compiler, .reading, .decoding]

/-- A step fails with an error. -/
inductive Fails (w : World) (search : InputSearch) (options : Table String String) :
    CompilationStep → GeneratorError → Prop where
  | uncreatable {fault : FileFault}
      (h : w.tree.createTemporary w.directory w.temporary = .error fault) :
      Fails w search options .temporaryFile (.file fault)
  | unsearchable {e : GeneratorError} (h : search w.prepared w.directory = .error e) :
      Fails w search options .inputFiles e
  | missing (h : w.compiler = none) :
      Fails w search options .compiler (.compilerNotFound compilerName)
  | unsuccessful {files : List String} {run : CompilerRun}
      (h : w.Compiles search options files run) (hstatus : run.status.isSuccess = false) :
      Fails w search options .compiler
        (.compilerFailed run.status (Text.Utf8.decodeLossy run.stderr))
  | gone {files : List String} {run : CompilerRun} (h : w.Compiles search options files run)
      (houtput : run.output.content? = none) :
      Fails w search options .reading (.file .notFound)
  | undecodable {files : List String} {run : CompilerRun} {content : List UInt8}
      (h : w.Compiles search options files run) (houtput : run.output.content? = some content)
      (hdecode : Wire.decodeDescriptorSet content = none) :
      Fails w search options .decoding .descriptors

/-- The error is that of the first step that fails. -/
def FirstFails (w : World) (search : InputSearch) (options : Table String String)
    (e : GeneratorError) : Prop :=
  ∃ before step after, inOrder = before ++ step :: after ∧ Fails w search options step e ∧
    ∀ earlier ∈ before, ∀ e', ¬Fails w search options earlier e'

end CompilationStep

/-! ## What the compiler leaves -/

namespace CompilerOutput

variable {place : Place} {t : FileTree}

theorem at?_apply (output : CompilerOutput) (hne : place ≠ [])
    (h : t.at? place = some (.file [])) :
    (output.apply place t).at? place = output.content?.map .file := by
  cases output with
  | untouched => exact h
  | written content =>
      show (t.put place (.file content)).at? place = _
      rw [at?_put hne, if_pos rfl]
      rfl
  | removed =>
      show (t.remove place).at? place = _
      rw [at?_of_ne_nil hne, get?_remove, if_pos List.prefix_rfl]
      rfl

end CompilerOutput

/-- What is read through the path of the temporary file is what the compiler left. -/
theorem readBytes_temporary {t created : FileTree} {directory place : Place}
    {temporary path : String} (ht : t.WellFormed)
    (hcreate : t.createTemporary directory temporary = .ok (place, path, created))
    (output : CompilerOutput) :
    (output.apply place created).readBytes directory path
      = output.content?.elim (.error .notFound) .ok := by
  obtain ⟨-, hnone, rfl⟩ := createFileAt_ok (createTemporary_ok hcreate).1
  have hne : place ≠ [] := by
    rintro rfl
    cases hnone
  have hchanged : OnlyAt place t (output.apply place (t.put place (.file []))) :=
    (onlyAt_put place t _).trans (output.onlyAt_apply place _)
  have hempty : (t.put place (.file [])).at? place = some (.file []) := by
    rw [at?_put hne, if_pos rfl]
  unfold readBytes
  rw [look_temporary ht hcreate hchanged, output.at?_apply hne hempty]
  cases output.content? <;> rfl

/-! ## Taking the steps -/

theorem Action.run_look {α : Type} (f : FileTree → Place → Except FileFault α) (w : World) :
    (Action.look f).run.run w = ((f w.tree w.directory).mapError .file, w) := by
  unfold Action.look
  rw [Action.run_get]
  cases f w.tree w.directory <;> rfl

section Steps

variable {w : World} {search : InputSearch} {options : Table String String} {files : List String}
  {run : CompilerRun}

theorem World.prepared_of_createTemporary {place : Place} {path : String} {tree : FileTree}
    (h : w.tree.createTemporary w.directory w.temporary = .ok (place, path, tree)) :
    w.prepared = tree := by
  rw [World.prepared, h]

theorem World.Compiles.unique {files' : List String} {run' : CompilerRun}
    (h : w.Compiles search options files run) (h' : w.Compiles search options files' run') :
    files' = files ∧ run' = run := by
  obtain ⟨hfound, place, path, tree, compiler, hcreate, hcompiler, rfl⟩ := h
  obtain ⟨hfound', place', path', tree', compiler', hcreate', hcompiler', rfl⟩ := h'
  obtain rfl := Except.ok.inj (hfound.symm.trans hfound')
  obtain ⟨-, hpath⟩ := Prod.mk.inj (Except.ok.inj (hcreate.symm.trans hcreate'))
  obtain ⟨rfl, -⟩ := Prod.mk.inj hpath
  obtain rfl := Option.some.inj (hcompiler.symm.trans hcompiler')
  exact ⟨rfl, rfl⟩

/-- What a run of the compiler gives in the end. -/
def CompilerRun.result (files : List String) (run : CompilerRun) :
    Except GeneratorError CompiledFiles :=
  if run.status.isSuccess then
    match run.output.content? with
    | none => .error (.file .notFound)
    | some content =>
        match Wire.decodeDescriptorSet content with
        | none => .error .descriptors
        | some set => .ok (CompiledFiles.ofSet files set)
  else .error (.compilerFailed run.status (Text.Utf8.decodeLossy run.stderr))

theorem compileInputs_of_uncreatable {fault : FileFault}
    (h : w.tree.createTemporary w.directory w.temporary = .error fault) :
    ((compileInputs search options).run.run w).1 = .error (.file fault) := by
  unfold compileInputs withTemporaryFile
  rw [Action.run_get, h]
  rfl

/-- With a temporary file the result is that of what is done with it. -/
theorem withTemporaryFile_of_created {α : Type} {body : Place → String → Action GeneratorError α}
    {place : Place} {path : String} {tree : FileTree}
    (h : w.tree.createTemporary w.directory w.temporary = .ok (place, path, tree)) :
    ((withTemporaryFile body).run.run w).1 = ((body place path).run.run { w with tree }).1 := by
  unfold withTemporaryFile
  rw [Action.run_get, h]
  rfl

variable {place : Place} {path : String} {tree : FileTree}
  (hcreate : w.tree.createTemporary w.directory w.temporary = .ok (place, path, tree))

include hcreate in
theorem compileInputs_of_unsearchable {e : GeneratorError}
    (h : search w.prepared w.directory = .error e) :
    ((compileInputs search options).run.run w).1 = .error e := by
  rw [World.prepared_of_createTemporary hcreate] at h
  rw [compileInputs, withTemporaryFile_of_created hcreate, Action.run_get, h]
  rfl

include hcreate in
theorem compileInputs_of_missing (hfound : search w.prepared w.directory = .ok files)
    (h : w.compiler = none) :
    ((compileInputs search options).run.run w).1 = .error (.compilerNotFound compilerName) := by
  rw [World.prepared_of_createTemporary hcreate] at hfound
  rw [compileInputs, withTemporaryFile_of_created hcreate, Action.run_get, hfound]
  change ((runCompiler place path files options >>= _).run.run { w with tree }).1 = _
  rw [Action.run_bind, runCompiler, Action.run_get]
  simp only [h]
  rfl

/-- A compiler that reports success has its file read, whatever it did to it. -/
theorem runCompiler_of_compiler {v : World} {compiler : Compiler} (h : v.compiler = some compiler)
    (hrun : compiler v.tree v.directory (compilerArgs path files options) = run) :
    ((runCompiler place path files options).run.run v).1 =
      if run.status.isSuccess then
        ((run.output.apply place v.tree).readBytes v.directory path).mapError .file
      else .error (.compilerFailed run.status (Text.Utf8.decodeLossy run.stderr)) := by
  rw [runCompiler, Action.run_get]
  simp only [h, hrun]
  cases hstatus : run.status.isSuccess with
  | false => rfl
  | true =>
      let after : World :=
        { v with
          tree := run.output.apply place v.tree
          compiler := some compiler
          calls := v.calls ++ [compilerArgs path files options] }
      show ((Action.look fun tree directory => tree.readBytes directory path).run.run after).1 = _
      rw [Action.run_look]
      rfl

theorem compileInputs_of_compiles (hw : w.tree.WellFormed)
    (h : w.Compiles search options files run) :
    ((compileInputs search options).run.run w).1 = run.result files := by
  obtain ⟨hfound, place, path, tree, compiler, hcreate, hcompiler, hrun⟩ := h
  rw [World.prepared_of_createTemporary hcreate] at hfound hrun
  have hcontent : ((runCompiler place path files options).run.run { w with tree }).1 = _ :=
    runCompiler_of_compiler hcompiler hrun.symm
  have hread := readBytes_temporary hw hcreate run.output
  rw [compileInputs, withTemporaryFile_of_created hcreate, Action.run_get, hfound]
  change ((runCompiler place path files options >>= _).run.run { w with tree }).1 = _
  rw [Action.run_bind]
  rcases hran : (runCompiler place path files options).run.run { w with tree } with ⟨result, v⟩
  rw [hran] at hcontent
  subst hcontent
  unfold CompilerRun.result
  cases hstatus : run.status.isSuccess with
  | false => rfl
  | true =>
      simp only [hread, if_true]
      cases hleft : run.output.content? with
      | none => rfl
      | some content =>
          simp only [Option.elim_some, Except.mapError]
          cases hdecode : Wire.decodeDescriptorSet content <;> rfl

end Steps

/-! ## The first step that fails -/

open CompilationStep

section First

variable {w : World} {search : InputSearch} {options : Table String String}

/-- A step fails with one error only. -/
theorem CompilationStep.Fails.unique {step : CompilationStep} {e e' : GeneratorError}
    (h : Fails w search options step e) (h' : Fails w search options step e') : e = e' := by
  cases h with
  | uncreatable h =>
      cases h' with
      | uncreatable h' => rw [Except.error.inj (h.symm.trans h')]
  | unsearchable h =>
      cases h' with
      | unsearchable h' => exact Except.error.inj (h.symm.trans h')
  | missing h =>
      cases h' with
      | missing => rfl
      | unsuccessful h' =>
          obtain ⟨-, _, _, _, _, -, hcompiler, -⟩ := h'
          cases h.symm.trans hcompiler
  | unsuccessful h =>
      cases h' with
      | missing h' =>
          obtain ⟨-, _, _, _, _, -, hcompiler, -⟩ := h
          cases h'.symm.trans hcompiler
      | unsuccessful h' =>
          obtain ⟨-, rfl⟩ := h.unique h'
          rfl
  | gone => cases h'; rfl
  | undecodable => cases h'; rfl

/-- There is one first step that fails, and it fails with one error. -/
theorem CompilationStep.FirstFails.unique {e e' : GeneratorError}
    (h : FirstFails w search options e) (h' : FirstFails w search options e') : e = e' := by
  classical
  obtain ⟨before, step, after, horder, hfails, hbefore⟩ := h
  obtain ⟨before', step', after', horder', hfails', hbefore'⟩ := h'
  -- Both steps are what a search for a step that fails finds.
  let fails : CompilationStep → Bool := fun s => decide (∃ e, Fails w search options s e)
  have hfirst : inOrder.find? fails = some step := by
    rw [List.find?_eq_some_iff_append]
    exact ⟨by simpa [fails] using ⟨e, hfails⟩, before, after, horder,
      by simpa [fails] using hbefore⟩
  have hfirst' : inOrder.find? fails = some step' := by
    rw [List.find?_eq_some_iff_append]
    exact ⟨by simpa [fails] using ⟨e', hfails'⟩, before', after', horder',
      by simpa [fails] using hbefore'⟩
  obtain rfl := Option.some.inj (hfirst.symm.trans hfirst')
  exact hfails.unique hfails'

/-- The compiler succeeds and leaves a description, from which the files are selected. -/
def World.Yields (w : World) (search : InputSearch) (options : Table String String)
    (compiled : CompiledFiles) : Prop :=
  ∃ files run content set, w.Compiles search options files run ∧ run.status.isSuccess = true ∧
    run.output.content? = some content ∧ Wire.decodeDescriptorSet content = some set ∧
    compiled = CompiledFiles.ofSet files set

/-- A compilation ends with the error of the first step that fails, or with what the compiler
yields. -/
inductive World.EndsWith (w : World) (search : InputSearch) (options : Table String String) :
    Except GeneratorError CompiledFiles → Prop where
  | failure {e : GeneratorError} (h : FirstFails w search options e) :
      EndsWith w search options (.error e)
  | success {compiled : CompiledFiles} (h : w.Yields search options compiled) :
      EndsWith w search options (.ok compiled)

theorem not_fails_temporaryFile {created : Place × String × FileTree}
    (h : w.tree.createTemporary w.directory w.temporary = .ok created) (e : GeneratorError) :
    ¬Fails w search options .temporaryFile e := by
  rintro ⟨h'⟩
  cases h.symm.trans h'

theorem not_fails_inputFiles {files : List String} (h : search w.prepared w.directory = .ok files)
    (e : GeneratorError) : ¬Fails w search options .inputFiles e := by
  intro hfails
  cases hfails with
  | unsearchable h' => cases h.symm.trans h'

namespace World.Compiles

variable {files : List String} {run : CompilerRun} (h : w.Compiles search options files run)

include h

theorem not_fails_compiler (hstatus : run.status.isSuccess = true) (e : GeneratorError) :
    ¬Fails w search options .compiler e := by
  intro hfails
  cases hfails with
  | missing hmissing =>
      obtain ⟨-, _, _, _, _, -, hcompiler, -⟩ := h
      cases hmissing.symm.trans hcompiler
  | unsuccessful h' hstatus' =>
      obtain ⟨-, rfl⟩ := h.unique h'
      cases hstatus.symm.trans hstatus'

theorem not_fails_reading {content : List UInt8} (hleft : run.output.content? = some content)
    (e : GeneratorError) : ¬Fails w search options .reading e := by
  intro hfails
  cases hfails with
  | gone h' hleft' =>
      obtain ⟨-, rfl⟩ := h.unique h'
      cases hleft.symm.trans hleft'

theorem not_fails_decoding {content : List UInt8} {set : DescriptorSet}
    (hleft : run.output.content? = some content)
    (hdecode : Wire.decodeDescriptorSet content = some set) (e : GeneratorError) :
    ¬Fails w search options .decoding e := by
  intro hfails
  cases hfails with
  | undecodable h' hleft' hdecode' =>
      obtain ⟨-, rfl⟩ := h.unique h'
      obtain rfl := Option.some.inj (hleft.symm.trans hleft')
      cases hdecode.symm.trans hdecode'

/-- Once the compiler runs, its run decides. -/
theorem endsWith_result : w.EndsWith search options (run.result files) := by
  obtain ⟨hfound, place, path, tree, compiler, hcreate, -⟩ := id h
  have htemporary : ∀ e, ¬Fails w search options .temporaryFile e :=
    not_fails_temporaryFile hcreate
  have hinputs : ∀ e, ¬Fails w search options .inputFiles e := not_fails_inputFiles hfound
  unfold CompilerRun.result
  cases hstatus : run.status.isSuccess with
  | false =>
      exact .failure ⟨[.temporaryFile, .inputFiles], .compiler, _, rfl, .unsuccessful h hstatus,
        by simpa using ⟨htemporary, hinputs⟩⟩
  | true =>
      have hruns := h.not_fails_compiler hstatus
      cases hleft : run.output.content? with
      | none =>
          exact .failure ⟨[.temporaryFile, .inputFiles, .compiler], .reading, _, rfl,
            .gone h hleft, by simpa using ⟨htemporary, hinputs, hruns⟩⟩
      | some content =>
          have hreads := h.not_fails_reading hleft
          cases hdecode : Wire.decodeDescriptorSet content with
          | none =>
              simp only [hdecode]
              exact .failure ⟨[.temporaryFile, .inputFiles, .compiler, .reading], .decoding, _, rfl,
                .undecodable h hleft hdecode,
                by simpa using ⟨htemporary, hinputs, hruns, hreads⟩⟩
          | some set =>
              simp only [hdecode]
              exact .success ⟨files, run, content, set, h, hstatus, hleft, hdecode, rfl⟩

end World.Compiles

/-- **Either some step fails first or all go well.** -/
theorem compileInputs_endsWith (search : InputSearch) (options : Table String String)
    (hw : w.tree.WellFormed) :
    w.EndsWith search options ((compileInputs search options).run.run w).1 := by
  cases hcreate : w.tree.createTemporary w.directory w.temporary with
  | error fault =>
      rw [compileInputs_of_uncreatable hcreate]
      exact .failure ⟨[], .temporaryFile, _, rfl, .uncreatable hcreate, nofun⟩
  | ok created =>
      have htemporary : ∀ e, ¬Fails w search options .temporaryFile e :=
        not_fails_temporaryFile hcreate
      obtain ⟨place, path, tree⟩ := created
      cases hfound : search w.prepared w.directory with
      | error e =>
          rw [compileInputs_of_unsearchable hcreate hfound]
          exact .failure ⟨[.temporaryFile], .inputFiles, _, rfl, .unsearchable hfound,
            by simpa using htemporary⟩
      | ok files =>
          have hinputs : ∀ e, ¬Fails w search options .inputFiles e :=
            not_fails_inputFiles hfound
          cases hcompiler : w.compiler with
          | none =>
              rw [compileInputs_of_missing hcreate hfound hcompiler]
              exact .failure ⟨[.temporaryFile, .inputFiles], .compiler, _, rfl, .missing hcompiler,
                by simpa using ⟨htemporary, hinputs⟩⟩
          | some compiler =>
              have hcompiles : w.Compiles search options files
                  (compiler w.prepared w.directory (compilerArgs path files options)) :=
                ⟨hfound, place, path, tree, compiler, hcreate, hcompiler, rfl⟩
              rw [compileInputs_of_compiles hw hcompiles]
              exact hcompiles.endsWith_result

/-- Where all goes well no step fails. -/
theorem World.Yields.not_firstFails {compiled : CompiledFiles}
    (h : w.Yields search options compiled) (e : GeneratorError) :
    ¬FirstFails w search options e := by
  obtain ⟨files, run, content, set, hcompiles, hstatus, hleft, hdecode, -⟩ := h
  obtain ⟨hfound, _, _, _, _, hcreate, -⟩ := id hcompiles
  rintro ⟨-, step, -, -, hfails, -⟩
  cases step with
  | temporaryFile => exact not_fails_temporaryFile hcreate e hfails
  | inputFiles => exact not_fails_inputFiles hfound e hfails
  | compiler => exact hcompiles.not_fails_compiler hstatus e hfails
  | reading => exact hcompiles.not_fails_reading hleft e hfails
  | decoding => exact hcompiles.not_fails_decoding hleft hdecode e hfails

theorem World.Yields.unique {compiled compiled' : CompiledFiles}
    (h : w.Yields search options compiled) (h' : w.Yields search options compiled') :
    compiled = compiled' := by
  obtain ⟨files, run, content, set, hcompiles, -, hleft, hdecode, rfl⟩ := h
  obtain ⟨files', run', content', set', hcompiles', -, hleft', hdecode', rfl⟩ := h'
  obtain ⟨rfl, rfl⟩ := hcompiles.unique hcompiles'
  obtain rfl := Option.some.inj (hleft.symm.trans hleft')
  rw [Option.some.inj (hdecode.symm.trans hdecode')]

/-- There is one way for a compilation to end. -/
theorem World.EndsWith.unique {result result' : Except GeneratorError CompiledFiles}
    (h : w.EndsWith search options result) (h' : w.EndsWith search options result') :
    result = result' := by
  cases h with
  | failure h =>
      cases h' with
      | failure h' => rw [h.unique h']
      | success h' => exact absurd h (h'.not_firstFails _)
  | success h =>
      cases h' with
      | failure h' => exact absurd h' (h.not_firstFails _)
      | success h' => rw [h.unique h']

/-- **A compilation leaves the files as they were, and the first step that fails decides its
error.**  This is so for every compiler and for every way to find the input files, that of
`compileSource` among them; where no step fails the result is what the compiler wrote. -/
theorem compileInputs_exact (search : InputSearch) (options : Table String String)
    (hw : w.tree.WellFormed) :
    (((compileInputs search options).run.run w).2.tree = w.tree ∧
      ((compileInputs search options).run.run w).2.directory = w.directory) ∧
    (∀ e, ((compileInputs search options).run.run w).1 = .error e ↔
      FirstFails w search options e) ∧
    ∀ compiled, ((compileInputs search options).run.run w).1 = .ok compiled ↔
      w.Yields search options compiled := by
  have hends := compileInputs_endsWith search options hw
  refine ⟨leads_compileInputs search options w hw, fun e => ⟨fun h => ?_, fun h => ?_⟩,
    fun compiled => ⟨fun h => ?_, fun h => ?_⟩⟩
  · rw [h] at hends
    cases hends with
    | failure hfirst => exact hfirst
  · exact hends.unique (.failure h)
  · rw [h] at hends
    cases hends with
    | success hyields => exact hyields
  · exact hends.unique (.success h)

end First

/-- The shop with another compiler, or without one. -/
def shopWith (compiler : Option Compiler) : World :=
  { shopWorld with compiler }

/-- A compiler that takes its file away and is then stopped. -/
def crashingCompiler : Compiler := fun _ _ _ => { status := .signal 11, output := .removed }

/-- A compiler that takes its file away and is stopped is reported as stopped; where there is no
compiler and the source is missing the source is reported; and a compiler that succeeds with
nothing to say gives nothing to generate. -/
theorem shop_compiled :
    (FirstFails (shopWith (some crashingCompiler)) (·.inputFiles · "shop.proto") ∅
        (.compilerFailed (.signal 11) "") ∧
      (((compileSource "shop.proto" ∅).run.run (shopWith (some crashingCompiler))).2.tree
        = shopWorld.tree)) ∧
    (FirstFails (shopWith none) (·.inputFiles · "gone") ∅ (.walk "gone") ∧
      Fails (shopWith none) (·.inputFiles · "gone") ∅ .compiler (.compilerNotFound "protoc")) ∧
    shopWorld.Yields (·.inputFiles · "shop.proto") ∅ { inputs := ["shop.proto"] } := by
  have hshop : shopWorld.tree.WellFormed := ⟨by decide +kernel, by decide +kernel⟩
  have hcrashed : ((compileSource "shop.proto" ∅).run.run (shopWith (some crashingCompiler))).1
      = .error (.compilerFailed (.signal 11) "") := rfl
  have hgone : ((compileSource "gone" ∅).run.run (shopWith none)).1 = .error (.walk "gone") := rfl
  have hyields : ((compileSource "shop.proto" ∅).run.run shopWorld).1
      = .ok { inputs := ["shop.proto"] } := rfl
  obtain ⟨⟨htree, -⟩, hfirst, -⟩ :=
    compileInputs_exact (w := shopWith (some crashingCompiler)) (·.inputFiles · "shop.proto") ∅
      hshop
  obtain ⟨-, hfirst', -⟩ :=
    compileInputs_exact (w := shopWith none) (·.inputFiles · "gone") ∅ hshop
  obtain ⟨-, -, hall⟩ := compileInputs_exact (·.inputFiles · "shop.proto") ∅ hshop
  exact ⟨⟨(hfirst _).1 hcrashed, htree⟩, ⟨(hfirst' _).1 hgone, .missing rfl⟩, (hall _).1 hyields⟩

end ClientGen
