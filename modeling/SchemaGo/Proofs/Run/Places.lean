import Mathlib
import SchemaGo.Proofs.Directories
import SchemaGo.Proofs.Go.Scan
import SchemaGo.Proofs.Naming
import SchemaGo.Run.Generate

/-!
Where the files of a schema are. In an output directory that is there, each file has a place of its
own directory, and files with different paths have different places.
-/

namespace SchemaGo

/-! ### Joined paths -/

namespace Path

/-- The text is one step that leads to an entry of a directory. -/
structure IsName (s : String) : Prop where
  noSlash : '/' ∉ s.toList
  notIdle : isIdle s = false
  notUp : s ≠ ".."

variable {base x : String}

lemma steps_name (hx : '/' ∉ x.toList) : steps x = [x] := by
  rw [steps, List.splitOn, List.splitOnP_eq_singleton]
  · simp
  · intro c hc
    rw [beq_eq_false_iff_ne]
    rintro rfl
    exact hx hc

lemma steps_append_slash (base : String) (hx : '/' ∉ x.toList) :
    steps (base ++ "/" ++ x) = steps base ++ [x] := by
  have h : (base ++ "/" ++ x).toList = base.toList ++ '/' :: x.toList := by simp
  have hs := steps_name hx
  rw [steps] at hs
  rw [steps, h, List.splitOn, List.splitOnP_append_cons _ _ (by simp), List.map_append]
  exact congrArg _ hs

lemma IsName.not_absolute (hx : IsName x) : isAbsolute x = false := by
  rw [isAbsolute, beq_eq_false_iff_ne]
  intro h
  exact hx.noSlash (List.mem_of_mem_head? h)

/-- Behind the steps of the base comes one more; a step that stays may be lost before it. -/
lemma steps_join (hx : IsName x) (base : String) :
    ∃ xs, steps (join base x) = xs ++ [x] ∧ (steps base = xs ∨ steps base = xs ++ [""]) := by
  by_cases hb : base = ""
  · subst hb
    refine ⟨[], ?_, .inr (steps_name (by simp))⟩
    rw [join, if_pos (by simp), steps_name hx.noSlash]
    rfl
  · have hne : (isAbsolute x || base.isEmpty) = false := by simp [hx.not_absolute, hb]
    by_cases hl : base.toList.getLast? = some '/'
    · obtain ⟨bs, hbs⟩ := List.getLast?_eq_some_iff.mp hl
      obtain rfl : base = String.ofList bs ++ "/" := by
        apply String.toList_injective
        simp [hbs]
      refine ⟨steps (String.ofList bs), ?_, .inr ?_⟩
      · rw [join, if_neg (by simp [hne]), if_pos (by simp), steps_append_slash _ hx.noSlash]
      · have h := steps_append_slash (x := "") (String.ofList bs) (by simp)
        rwa [String.append_empty] at h
    · refine ⟨steps base, ?_, .inl rfl⟩
      rw [join, if_neg (by simp [hne]), if_neg (by simpa using hl),
        steps_append_slash _ hx.noSlash]

lemma isAbsolute_join (hx : IsName x) (base : String) :
    isAbsolute (join base x) = isAbsolute base := by
  by_cases hb : base = ""
  · subst hb
    rw [join, if_pos (by simp), hx.not_absolute]
    rfl
  · obtain ⟨c, cs, hc⟩ := List.exists_cons_of_ne_nil (by simpa using hb : base.toList ≠ [])
    rw [join, if_neg (by simp [hx.not_absolute, hb])]
    split <;> simp [isAbsolute, hc]

lemma join_ne_empty (hx : IsName x) (base : String) : join base x ≠ "" := by
  intro h
  obtain ⟨xs, hs, -⟩ := steps_join hx base
  have hempty : steps "" = [""] := steps_name (by simp)
  rw [h, hempty] at hs
  obtain ⟨-, rfl⟩ : xs = [] ∧ "" = x := by
    rcases xs with _ | ⟨y, ys⟩
    · simpa using hs
    · simp at hs
  exact absurd hx.notIdle (by decide)

end Path

namespace FileTree

open SchemaGo.Path

variable {t u : FileTree} {p q : Place} {base x : String}

lemma step_name (hx : IsName x) (h : t.step p x = .ok q) :
    t.get? p = some .dir ∧ q = p ++ [x] := by
  obtain ⟨hp, rfl⟩ := step_eq_ok h
  rw [hx.notIdle, if_neg (by simp), if_neg hx.notUp]
  exact ⟨hp, rfl⟩

/-- A joined path leads to an entry of the directory to which its base leads. -/
lemma walk_join (hx : IsName x) (h : t.walk p (steps (join base x)) = .ok q) :
    ∃ r, t.walk p (steps base) = .ok r ∧ t.get? r = some .dir ∧ q = r ++ [x] := by
  obtain ⟨xs, hs, hbase⟩ := steps_join hx base
  rw [hs, walk_append] at h
  rcases hr : t.walk p xs with e | r
  · simp [hr, Except.bind] at h
  · have hq : t.step r x = .ok q := by
      rcases hstep : t.step r x with e | q'
      · simp [hr, Except.bind, hstep] at h
      · simpa [hr, Except.bind, hstep] using h
    obtain ⟨hdir, rfl⟩ := step_name hx hq
    refine ⟨r, ?_, hdir, rfl⟩
    rcases hbase with hb | hb
    · rw [hb, hr]
    · have hidle : isIdle "" = true := by decide
      rw [hb, walk_append, hr, Except.bind, walk_cons, step_of_dir hdir, if_pos hidle]
      rfl

lemma start_join (hx : IsName x) (t : FileTree) (base : String) :
    t.start (join base x) = t.start base := by
  rw [start, start, isAbsolute_join hx]

/-- The steps of the base lead to the directory at `p`. -/
def LeadsTo (t : FileTree) (base : String) (p : Place) : Prop :=
  t.walk (t.start base) (steps base) = .ok p ∧ t.get? p = some .dir

/-- A joined path leads to a place exactly when its base leads to the directory of it. -/
lemma locate_join (hx : IsName x) :
    t.locate (join base x) = .ok q ↔ ∃ r, t.LeadsTo base r ∧ q = r ++ [x] := by
  rw [locate, if_neg (by simpa using join_ne_empty hx base), start_join hx]
  constructor
  · intro h
    obtain ⟨r, hr, hdir, rfl⟩ := walk_join hx h
    exact ⟨r, ⟨hr, hdir⟩, rfl⟩
  · rintro ⟨r, ⟨hr, hdir⟩, rfl⟩
    have hlast : t.step r x = .ok (r ++ [x]) := by
      rw [step_of_dir hdir, hx.notIdle, if_neg (by simp), if_neg hx.notUp]
    obtain ⟨xs, hs, hbase⟩ := steps_join hx base
    have hxs : t.walk (t.start base) xs = .ok r := by
      rcases hbase with hb | hb
      · rwa [hb] at hr
      · have hidle : isIdle "" = true := by decide
        have hf := (walk_filter_idle hdir).mpr hr
        rw [hb, List.filter_append, List.filter_singleton, hidle] at hf
        exact (walk_filter_idle hdir).mp (by simpa using hf)
    rw [hs, walk_append, hxs, Except.bind, walk_cons, hlast]
    rfl

lemma upwards_join_ne_nil (hx : IsName x) (base : String) : upwards (join base x) ≠ [] := by
  obtain ⟨xs, hs, -⟩ := steps_join hx base
  rw [upwards, hs]
  simp [hx.notIdle]

end FileTree

/-! ### The places of the files -/

namespace Artifact

open SchemaGo.Path SchemaGo.FileTree

/-- The package that the file belongs to. -/
def package (c : Config) : Artifact → String
  | model _ => c.modelsPackage
  | querier | query _ => c.queriesPackage

lemma dir_eq_join (c : Config) (a : Artifact) : a.dir c = join c.output (a.package c) := by
  cases a <;> rfl

lemma model_mem_artifacts {s : Schema} :
    (∃ m, model m ∈ s.artifacts) ↔ s.hasModels = true := by
  simp only [Schema.artifacts, Schema.hasModels, List.mem_append, List.mem_map, Bool.not_eq_true',
    Bool.and_eq_false_iff, List.isEmpty_eq_false_iff_exists_mem]
  constructor
  · rintro ⟨m, ((⟨t, ht, -⟩ | ⟨e, he, -⟩) | ⟨x, hx, -⟩) | h⟩
    · exact .inl (.inl ⟨t, ht⟩)
    · exact .inl (.inr ⟨e, he⟩)
    · exact .inr ⟨x, hx⟩
    · split at h <;> simp at h
  · rintro ((⟨t, ht⟩ | ⟨e, he⟩) | ⟨x, hx⟩)
    · exact ⟨_, .inl (.inl (.inl ⟨t, ht, rfl⟩))⟩
    · exact ⟨_, .inl (.inl (.inr ⟨e, he, rfl⟩))⟩
    · exact ⟨_, .inl (.inr ⟨x, hx, rfl⟩)⟩

lemma querier_mem_artifacts {s : Schema} : querier ∈ s.artifacts ↔ s.queries.isEmpty = false := by
  unfold Schema.artifacts
  split <;> simp_all

lemma query_mem_artifacts {s : Schema} {q : Query} : query q ∈ s.artifacts ↔ q ∈ s.queries := by
  unfold Schema.artifacts
  split <;> simp_all

/-- The directories that a run makes are those of its files. -/
lemma mem_outputDirs {s : Schema} {c : Config} {d : String} :
    d ∈ s.outputDirs c ↔ ∃ a ∈ s.artifacts, a.dir c = d := by
  have hd : d ∈ s.outputDirs c ↔
      s.hasModels = true ∧ d = c.modelsDir ∨ s.queries.isEmpty = false ∧ d = c.queriesDir := by
    unfold Schema.outputDirs
    split <;> split <;> simp_all
  rw [hd]
  constructor
  · rintro (⟨h, rfl⟩ | ⟨h, rfl⟩)
    · obtain ⟨m, hm⟩ := model_mem_artifacts.mpr h
      exact ⟨_, hm, rfl⟩
    · exact ⟨_, querier_mem_artifacts.mpr h, rfl⟩
  · rintro ⟨a, ha, rfl⟩
    cases a with
    | model m => exact .inl ⟨model_mem_artifacts.mp ⟨m, ha⟩, rfl⟩
    | querier => exact .inr ⟨querier_mem_artifacts.mp ha, rfl⟩
    | query q =>
      refine .inr ⟨?_, rfl⟩
      exact List.isEmpty_eq_false_iff_exists_mem.mpr ⟨q, query_mem_artifacts.mp ha⟩

/-- Packages whose names are words. -/
def WordPackages (c : Config) : Prop :=
  Go.Lexeme.isWord c.modelsPackage = true ∧ Go.Lexeme.isWord c.queriesPackage = true

lemma isName_of_isWord {s : String} (h : Go.Lexeme.isWord s = true) : IsName s := by
  obtain ⟨c, rest, hs, hc, hrest⟩ := Go.Lexeme.isWord_eq_true h
  have hslash : Unicode.isIdentPart '/' = false ∧ Unicode.isIdentStart '/' = false := by
    decide
  refine ⟨fun hmem => ?_, ?_, ?_⟩
  · rw [hs] at hmem
    rcases List.mem_cons.mp hmem with rfl | hmem
    · rw [hslash.2] at hc
      exact absurd hc (by simp)
    · have h := hrest _ hmem
      rw [hslash.1] at h
      exact absurd h (by simp)
  · rw [isIdle, Bool.or_eq_false_iff, beq_eq_false_iff_ne]
    constructor
    · rw [Bool.eq_false_iff]
      intro he
      simp_all
    · rintro rfl
      exact absurd h (by decide)
  · rintro rfl
    exact absurd h (by decide)

lemma isName_package {c : Config} (hc : WordPackages c) (a : Artifact) :
    IsName (a.package c) := by
  cases a with
  | model m => exact isName_of_isWord hc.1
  | querier => exact isName_of_isWord hc.2
  | query q => exact isName_of_isWord hc.2

/-- The file, whatever its item is called, is one step below its directory. -/
lemma isName_fileName (a : Artifact) : IsName (a.fileName ++ ".go") := by
  have hsafe : ∀ c ∈ a.fileName.toList, Naming.isSafe c = true := by
    cases a with
    | model m => exact Naming.snakeCase_safe m.name
    | query q => exact Naming.snakeCase_safe q.name
    | querier => exact List.all_eq_true.mp (by decide)
  have hlen : ∀ s : String, s = a.fileName ++ ".go" → 3 ≤ s.length := by
    rintro s rfl
    rw [String.length_append]
    exact Nat.le_add_left 3 _
  refine ⟨fun hmem => ?_, ?_, fun he => ?_⟩
  · rw [String.toList_append, List.mem_append] at hmem
    rcases hmem with hmem | hmem
    · exact absurd (hsafe _ hmem) (by decide)
    · simp at hmem
  · rw [isIdle, Bool.or_eq_false_iff, beq_eq_false_iff_ne]
    constructor
    · rw [Bool.eq_false_iff]
      intro he
      exact absurd (hlen "" (by simpa using he.symm)) (by decide)
    · intro he
      exact absurd (hlen "." he.symm) (by decide)
  · exact absurd (hlen ".." he.symm) (by decide)

/-- Where the path of a file leads. -/
lemma locate_path {c : Config} (hc : WordPackages c) {a : Artifact} {t : FileTree} {q : Place}
    (h : t.locate (a.path c) = .ok q) :
    ∃ p, t.walk (t.start c.output) (steps c.output) = .ok p ∧
      q = p ++ [a.package c, a.fileName ++ ".go"] := by
  have hf := isName_fileName a
  have hp := isName_package hc a
  rw [locate, path, if_neg (by simpa using join_ne_empty hf _), dir_eq_join, start_join hf,
    start_join hp] at h
  obtain ⟨r, hr, -, rfl⟩ := walk_join hf h
  obtain ⟨p, hp', -, rfl⟩ := walk_join hp hr
  exact ⟨p, hp', by simp⟩

/-- Files with different paths have different places. -/
lemma path_eq_of_samePlace {c : Config} (hc : WordPackages c) {a b : Artifact} {t : FileTree}
    {q : Place} (ha : t.locate (a.path c) = .ok q) (hb : t.locate (b.path c) = .ok q) :
    a.path c = b.path c := by
  obtain ⟨p, hp, rfl⟩ := locate_path hc ha
  obtain ⟨p', hp', he⟩ := locate_path hc hb
  obtain rfl : p = p' := by simpa [hp] using hp'
  obtain ⟨hpackage, hfile⟩ :
      a.package c = b.package c ∧ a.fileName ++ ".go" = b.fileName ++ ".go" := by
    simpa using he
  rw [path, path, dir_eq_join, dir_eq_join, hpackage, hfile]

end Artifact

end SchemaGo
