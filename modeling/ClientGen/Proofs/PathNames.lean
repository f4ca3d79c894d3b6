import ClientGen.Project.Generation
import ClientGen.Proofs.PathSyntax
import ClientGen.Proofs.Selection

/-!
# Paths that are put together from names

A walk knows a file by the names on the way to it and makes a path of them, and what the path says
of the file is what the last name says.

* `Path.IsPart`, `Path.IsName` — a text between slashes, and one that leads further down.
* `Path.parts_joinAll` — the names of a path are those that it was put together from.
* `Path.fileName?_join` — the file name of such a path is the last name.
* `isTemplate_iff`, `isPartial_templateNameOf` — templates and partials by their names.
-/

namespace ClientGen

/-- What stands between separators has none. -/
theorem notMem_of_mem_splitOn {α : Type} [DecidableEq α] {separator : α} {l part : List α}
    (h : part ∈ l.splitOn separator) : separator ∉ part := by
  induction l generalizing part with
  | nil =>
      rw [List.splitOn_nil, List.mem_singleton] at h
      rw [h]
      exact List.not_mem_nil
  | cons a l ih =>
      rw [splitOn_cons] at h
      split at h
      · rcases List.mem_cons.1 h with rfl | h
        · exact List.not_mem_nil
        · exact ih h
      · rename_i ha
        obtain ⟨first, rest, hsplit⟩ := List.exists_cons_of_ne_nil (List.splitOn_ne_nil separator l)
        rw [hsplit, List.modifyHead_cons] at h
        rcases List.mem_cons.1 h with rfl | h
        · have hfirst := ih (hsplit ▸ List.mem_cons_self ..)
          have hne : separator ≠ a := fun he => ha he.symm
          simp [hfirst, hne]
        · exact ih (hsplit ▸ List.mem_cons_of_mem _ h)

namespace Path

/-- The text can stand between two slashes. -/
def IsPart (text : String) : Prop :=
  text ≠ "" ∧ '/' ∉ text.toList

/-- The text is the name of something in a directory. -/
structure IsName (text : String) : Prop where
  isPart : IsPart text
  ne_dot : text ≠ "."
  ne_dots : text ≠ ".."

instance (text : String) : Decidable (IsPart text) :=
  inferInstanceAs (Decidable (_ ∧ _))

instance (text : String) : Decidable (IsName text) :=
  decidable_of_iff (IsPart text ∧ text ≠ "." ∧ text ≠ "..")
    ⟨fun ⟨hpart, hdot, hdots⟩ => ⟨hpart, hdot, hdots⟩,
      fun ⟨hpart, hdot, hdots⟩ => ⟨hpart, hdot, hdots⟩⟩

variable {path name : String}

/-! ## Joining -/

theorem isAbsolute_of_isPart (h : IsPart name) : isAbsolute name = false := by
  cases hlist : name.toList with
  | nil => simp [isAbsolute, hlist]
  | cons c cs =>
      have hc : c ≠ '/' := by
        rintro rfl
        exact h.2 (hlist ▸ List.mem_cons_self ..)
      simpa [isAbsolute, hlist] using hc

theorem parts_of_isPart (h : IsPart name) : parts name = [name] := by
  have hone : ∀ l ∈ [name.toList], '/' ∉ l := by simpa using h.2
  have hsplit : name.toList.splitOn '/' = [name.toList] := by
    simpa using List.splitOn_intercalate '/' hone (List.cons_ne_nil _ _)
  rw [parts, hsplit]
  simp [h.1]

/-- The parts of a path can stand between slashes. -/
theorem isPart_of_mem_parts {part : String} (h : part ∈ parts path) : IsPart part := by
  obtain ⟨chars, hchars, rfl⟩ := List.mem_map.1 h
  obtain ⟨hmem, hne⟩ := List.mem_filter.1 hchars
  refine ⟨by simpa using hne, ?_⟩
  rw [String.toList_ofList]
  exact notMem_of_mem_splitOn hmem

/-- A path before a name is empty, or a slash comes between. -/
theorem join_cases (path : String) (h : IsPart name) :
    (path = "" ∧ join path name = name) ∨
      ∃ front, join path name = front ++ "/" ++ name ∧ parts front = parts path ∧
        (front = "" → path = "/") ∧ (front ≠ "" → isAbsolute front = isAbsolute path) := by
  have habsolute := isAbsolute_of_isPart h
  by_cases hempty : path = ""
  · subst hempty
    refine Or.inl ⟨rfl, ?_⟩
    simp [join, habsolute]
  · refine Or.inr ?_
    by_cases hslash : path.toList.getLast? = some '/'
    · obtain ⟨chars, hchars⟩ := List.getLast?_eq_some_iff.1 hslash
      have hpath : path = String.ofList chars ++ "/" := by
        rw [← String.toList_inj, hchars, String.toList_append, String.toList_ofList]
        rfl
      refine ⟨String.ofList chars, ?_, ?_, ?_, ?_⟩
      · simp [join, habsolute, hslash, ← hpath]
      · have hparts := parts_append_slash (String.ofList chars) ""
        rw [String.append_empty, ← hpath] at hparts
        rw [hparts]
        exact (List.append_nil _).symm
      · intro hfront
        rw [hpath, hfront]
        rfl
      · intro hfront
        obtain ⟨c, cs, hlist⟩ := List.exists_cons_of_ne_nil (mt String.toList_eq_nil_iff.1 hfront)
        rw [hpath]
        simp [isAbsolute, String.toList_append, hlist]
    · exact ⟨path, by simp [join, habsolute, hempty, hslash], rfl, fun h => absurd h hempty,
        fun _ => rfl⟩

theorem parts_join (path : String) (h : IsPart name) :
    parts (join path name) = parts path ++ [name] := by
  rcases join_cases path h with ⟨rfl, hjoin⟩ | ⟨front, hjoin, hparts, -⟩
  · rw [hjoin, parts_of_isPart h]
    rfl
  · rw [hjoin, parts_append_slash, hparts, parts_of_isPart h]

theorem isAbsolute_join (path : String) (h : IsPart name) :
    isAbsolute (join path name) = isAbsolute path := by
  rcases join_cases path h with ⟨rfl, hjoin⟩ | ⟨front, hjoin, -, hempty, habsolute⟩
  · rw [hjoin, isAbsolute_of_isPart h]
    rfl
  · by_cases hfront : front = ""
    · rw [hjoin, hempty hfront, hfront]
      simp [isAbsolute, String.toList_append]
    · obtain ⟨c, cs, hlist⟩ := List.exists_cons_of_ne_nil (mt String.toList_eq_nil_iff.1 hfront)
      rw [hjoin, ← habsolute hfront]
      simp [isAbsolute, String.toList_append, hlist]

theorem join_ne_empty (path : String) (h : IsPart name) : join path name ≠ "" := by
  intro hempty
  have hparts := parts_join path h
  rw [hempty] at hparts
  exact absurd hparts.symm (List.append_ne_nil_of_right_ne_nil _ (List.cons_ne_nil _ _))

theorem joinAll_concat (path : String) (names : List String) (name : String) :
    joinAll path (names ++ [name]) = join (joinAll path names) name :=
  List.foldl_append ..

/-- **The parts of a path are those that it was put together from.** -/
theorem parts_joinAll (path : String) {names : List String} (h : ∀ n ∈ names, IsPart n) :
    parts (joinAll path names) = parts path ++ names := by
  induction names generalizing path with
  | nil => exact (List.append_nil _).symm
  | cons n names ih =>
      have hrest : ∀ m ∈ names, IsPart m := fun m hm => h m (List.mem_cons_of_mem _ hm)
      rw [joinAll, List.foldl_cons]
      have hjoined := ih (join path n) hrest
      rw [joinAll] at hjoined
      rw [hjoined, parts_join path (h n (List.mem_cons_self ..)), List.append_assoc,
        List.singleton_append]

theorem isAbsolute_joinAll (path : String) {names : List String} (h : ∀ n ∈ names, IsPart n) :
    isAbsolute (joinAll path names) = isAbsolute path := by
  induction names generalizing path with
  | nil => rfl
  | cons n names ih =>
      have hjoined := ih (join path n) fun m hm => h m (List.mem_cons_of_mem _ hm)
      rw [joinAll, List.foldl_cons]
      rw [joinAll] at hjoined
      rw [hjoined, isAbsolute_join path (h n (List.mem_cons_self ..))]

theorem joinAll_ne_empty (hpath : path ≠ "") {names : List String}
    (h : ∀ n ∈ names, IsPart n) : joinAll path names ≠ "" := by
  cases names using List.reverseRecOn with
  | nil => exact hpath
  | append_singleton names n =>
      rw [joinAll_concat]
      exact join_ne_empty _ (h n (List.mem_append_right _ (List.mem_singleton_self n)))

/-! ## The last name -/

/-- The file name of a path that ends in a name. -/
theorem fileName?_join (path : String) (h : IsName name) :
    fileName? (join path name) = some name := by
  have hlast : ∃ front, components (join path name) = front ++ [.name name] := by
    have hcomponent : componentOf name = some (.name name) := by
      simp [componentOf, h.ne_dot, h.ne_dots]
    have hrest : (parts (join path name)).filterMap componentOf
        = (parts path).filterMap componentOf ++ [.name name] := by
      simp [parts_join path h.isPart, hcomponent]
    simp only [components, hrest]
    split
    · exact ⟨.root :: (parts path).filterMap componentOf, rfl⟩
    · split
      · exact ⟨.current :: (parts path).filterMap componentOf, rfl⟩
      · exact ⟨(parts path).filterMap componentOf, rfl⟩
  obtain ⟨front, hfront⟩ := hlast
  rw [fileName?, hfront, List.getLast?_concat]

/-- An extension comes after the last dot, and something comes before that dot. -/
theorem splitExtension_append {stem extension : String} (hstem : stem ≠ "")
    (hextension : '.' ∉ extension.toList) :
    splitExtension (stem ++ "." ++ extension) = (stem, some extension) := by
  obtain ⟨c, cs, hreverse⟩ : ∃ c cs, stem.toList.reverse = c :: cs :=
    List.exists_cons_of_ne_nil (by simpa using hstem)
  have hlist : (stem ++ "." ++ extension).toList.reverse
      = extension.toList.reverse ++ '.' :: c :: cs := by
    simp [String.toList_append, hreverse]
  have hpass : ∀ x ∈ extension.toList.reverse, decide (x ≠ '.') = true := by
    intro x hx
    simpa using fun he : x = '.' => hextension (he ▸ List.mem_reverse.1 hx)
  have hstemList : (c :: cs).reverse = stem.toList := by rw [← hreverse, List.reverse_reverse]
  rw [splitExtension, hlist, List.dropWhile_append_of_pos hpass,
    List.takeWhile_append_of_pos hpass]
  simp [hstemList]

/-- A name with an extension is put together from it. -/
theorem eq_append_of_splitExtension {stem extension : String}
    (h : splitExtension name = (stem, some extension)) :
    name = stem ++ "." ++ extension ∧ stem ≠ "" := by
  unfold splitExtension at h
  split at h
  · rename_i dot c before hdrop
    have hdot : dot = '.' := by
      have hhead := List.head?_dropWhile_not (fun x : Char => decide (x ≠ '.')) name.toList.reverse
      rw [hdrop] at hhead
      simpa using hhead
    have hsplit := List.takeWhile_append_dropWhile (p := fun x : Char => decide (x ≠ '.'))
      (l := name.toList.reverse)
    rw [hdrop, hdot] at hsplit
    obtain ⟨rfl, rfl⟩ : String.ofList (c :: before).reverse = stem ∧
        String.ofList (name.toList.reverse.takeWhile (· ≠ '.')).reverse = extension := by
      simpa using h
    constructor
    · apply String.toList_injective
      calc name.toList
        _ = (name.toList.reverse.takeWhile (· ≠ '.') ++ '.' :: c :: before).reverse := by
            rw [hsplit, List.reverse_reverse]
        _ = _ := by simp [String.toList_append]
    · simp
  · cases h

end Path

/-! ## Templates -/

open ClientGen.Path

/-- The name of a template, from the name of what is made of it. -/
def templateNameOf (stem : String) : String :=
  stem ++ "." ++ templateExtension

theorem templateNameOf_injective {stem stem' : String}
    (h : templateNameOf stem = templateNameOf stem') : stem = stem' := by
  rw [templateNameOf, templateNameOf, String.append_assoc, String.append_assoc] at h
  exact String.append_left_inj _ |>.1 h

/-- What is made of a template has its name without the extension. -/
theorem splitExtension_templateNameOf {stem : String} (h : stem ≠ "") :
    splitExtension (templateNameOf stem) = (stem, some templateExtension) :=
  splitExtension_append h (by decide)

/-- A path with a file name is that of a template if the name is that of a template. -/
theorem isTemplate_iff {path name : String} (h : fileName? path = some name) :
    isTemplate path = true ↔ ∃ stem, stem ≠ "" ∧ name = templateNameOf stem := by
  rw [isTemplate, extension?, h, Option.bind_some, decide_eq_true_iff]
  constructor
  · intro hextension
    obtain ⟨hname, hstem⟩ := eq_append_of_splitExtension (Prod.ext rfl hextension)
    exact ⟨_, hstem, hname⟩
  · rintro ⟨stem, hstem, rfl⟩
    rw [splitExtension_templateNameOf hstem]

/-- A template is a partial if what would be made of it has two dots in its name. -/
theorem isPartial_templateNameOf (stem : String) :
    isPartial (templateNameOf stem) = true ↔ 1 < stem.toList.count '.' := by
  have hlist : (templateNameOf stem).toList
      = stem.toList ++ '.' :: templateExtension.toList := by
    simp [templateNameOf, String.toList_append]
  have hdrop := Text.dropEnd?_eq_some_iff.2 hlist
  rw [isPartial, withoutTemplateExtension, hdrop, decide_eq_true_iff, String.toList_ofList]

/-- What is made of a template has a name that can stand between slashes. -/
theorem Path.IsName.isPart_of_templateNameOf {stem : String} (h : IsName (templateNameOf stem))
    (hstem : stem ≠ "") : IsPart stem := by
  refine ⟨hstem, fun hslash => h.isPart.2 ?_⟩
  rw [templateNameOf, String.append_assoc, String.toList_append]
  exact List.mem_append_left _ hslash

theorem Path.IsPart.isName_of_dots {stem : String} (h : IsPart stem) (hdot : stem ≠ ".")
    (hdots : stem.toList.count '.' ≤ 1) : IsName stem := by
  refine ⟨h, hdot, ?_⟩
  rintro rfl
  exact absurd hdots (by decide)

/-! ## Directories by their paths -/

/-- A text that ends in a name promises nothing. -/
theorem promisesDirectory_append (front : String) {name : String} (h : IsName name) :
    FileTree.promisesDirectory (front ++ name) = false := by
  obtain ⟨c, cs, hreverse⟩ : ∃ c cs, name.toList.reverse = c :: cs :=
    List.exists_cons_of_ne_nil (by simpa using h.isPart.1)
  have hslash : ∀ x ∈ c :: cs, x ≠ '/' := by
    rintro x hx rfl
    exact h.isPart.2 (List.mem_reverse.1 (hreverse ▸ hx))
  have hlist : (front ++ name).toList.reverse = c :: (cs ++ front.toList.reverse) := by
    simp [String.toList_append, hreverse]
  have hc := hslash c (List.mem_cons_self ..)
  unfold FileTree.promisesDirectory
  rw [hlist]
  split
  · rename_i heq
    exact absurd (List.cons.inj heq).1 hc
  · rename_i heq
    obtain ⟨rfl, htail⟩ := List.cons.inj heq
    cases cs with
    | nil =>
        -- the name would be a dot
        have hdot : name.toList = ".".toList := by
          rw [← List.reverse_reverse name.toList, hreverse]
          rfl
        exact absurd (String.toList_injective hdot) h.ne_dot
    | cons d cs =>
        have hd := hslash d (List.mem_cons_of_mem _ (List.mem_cons_self ..))
        exact absurd (List.cons.inj htail).1 hd
  · rfl

theorem promisesDirectory_join (path : String) {name : String} (h : IsName name) :
    FileTree.promisesDirectory (join path name) = false := by
  rcases join_cases path h.isPart with ⟨-, hjoin⟩ | ⟨front, hjoin, -⟩
  · rw [hjoin, ← String.empty_append (s := name)]
    exact promisesDirectory_append "" h
  · rw [hjoin]
    exact promisesDirectory_append (front ++ "/") h

/-- A dot after a path stands for the directory that the path leads to. -/
theorem promisesDirectory_join_dot {path : String} (h : path ≠ "") :
    FileTree.promisesDirectory (join path ".") = true := by
  have hdot : IsPart "." := by decide
  rcases join_cases path hdot with ⟨rfl, -⟩ | ⟨front, hjoin, -⟩
  · exact absurd rfl h
  · rw [hjoin, FileTree.promisesDirectory]
    simp [String.toList_append]

/-- Nothing after a path stands for a directory too. -/
theorem promisesDirectory_join_empty {path : String} (h : path ≠ "") :
    FileTree.promisesDirectory (join path "") = true := by
  have hrelative : isAbsolute "" = false := rfl
  by_cases hslash : path.toList.getLast? = some '/'
  · obtain ⟨chars, hchars⟩ := List.getLast?_eq_some_iff.1 hslash
    simp [join, hrelative, FileTree.promisesDirectory, hchars]
  · simp [join, hrelative, h, hslash, FileTree.promisesDirectory, String.toList_append]

end ClientGen
