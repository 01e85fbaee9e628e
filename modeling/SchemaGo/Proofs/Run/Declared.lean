import Mathlib
import SchemaGo.Proofs.Query.Plain
import SchemaGo.Proofs.Query.Querier
import SchemaGo.Proofs.Run.SecondRun

/-!
The names that the files of a run declare. Each file declares the names of its own item, so a name
is declared twice in a directory exactly when two items have it.
-/

namespace SchemaGo

open FileTree

/-- The names that the Go file at a path declares. -/
def FileTree.declared (t : FileTree) (path : String) : List String :=
  match t.readText path with
  | .error _ => []
  | .ok text =>
    match Go.File.read text with
    | .error _ => []
    | .ok f => Merge.namesOf f

variable {s : Schema} {c : Config} {t u : FileTree}

lemma FileTree.declared_eq {path text : String} {f : Go.File} (ht : t.readText path = .ok text)
    (hf : Go.File.read text = .ok f) : t.declared path = Merge.namesOf f := by
  rw [declared, ht]
  simp only [hf]

/-- The names that the file of an artifact declares. -/
def Artifact.names (tables : List Table) : Artifact → List String
  | model m => m.names
  | querier => querierNames
  | query q => q.names tables

/-- The queries can name the package of the models, and import it. -/
structure Config.Importable (c : Config) : Prop where
  name : Go.isTypeName c.modelsPackage = true
  path : QueryFile.isPlainPath c.modelsImport = true

/-- The text of a new file is read back, and declares its names, each of them once. -/
lemma Artifact.content_new_names (hs : s.Plain) (hq : ∀ q ∈ s.queries, q.Plain) (hc : c.Plain)
    (hi : c.Importable) {a : Artifact} (ha : a ∈ s.artifacts) {text : String}
    (h : a.content s.tables c none = .ok text) :
    (∃ g, Go.File.read text = .ok g ∧ Merge.namesOf g = a.names s.tables) ∧
      (a.names s.tables).Nodup := by
  cases a with
  | model m =>
    have hmerge : Merge.mergeSource m none c.modelsPackage = .ok text := by
      rw [content] at h
      rcases hx : Merge.mergeSource m none c.modelsPackage with e | out
      · simp [hx, Except.mapError] at h
      · simpa [hx, Except.mapError] using h
    exact Merge.mergeSource_new_names (hs.model ha).legal hc.wordPackages.1 hmerge
  | querier =>
    obtain rfl := Except.ok.inj h
    exact ⟨read_renderQuerier hc.wordPackages.2, querierNames_nodup⟩
  | query q =>
    have hplain := hq q (query_mem_artifacts.mp ha)
    obtain ⟨f, hf, rfl⟩ : ∃ f, q.file s.tables c = .ok f ∧ f.render = text := by
      rw [content] at h
      rcases hx : q.file s.tables c with e | f
      · simp [hx, Except.map, Except.mapError] at h
      · exact ⟨f, rfl, by simpa [hx, Except.map, Except.mapError] using h⟩
    obtain ⟨hlegal, hnames⟩ := hplain.file hc.queries hi.name hi.path
      (fun t ht => (hs.tables t ht).1) hf
    obtain ⟨g, hg, hgnames⟩ := QueryFile.read_render hlegal
    exact ⟨⟨g, hg, hgnames.trans hnames⟩, q.names_nodup hplain.name s.tables⟩

/-- **Which names the files of a run declare.** After a first run each file declares the names of
its item, and in a directory no name is declared twice exactly when no two items there share one. -/
theorem generate_declares {t' : FileTree} {r : Report} (hs : s.Plain)
    (hq : ∀ q ∈ s.queries, q.Plain) (hc : c.Plain) (hi : c.Importable)
    (hpaths : (s.artifacts.map fun a => a.path c).Nodup) (hfresh : t.IsFresh c.output)
    (hmode : c.mode = .write) (hrun : generate s c t = (.ok r, t')) (hok : r.isFailure = false) :
    (∀ a ∈ s.artifacts, t'.declared (a.path c) = a.names s.tables) ∧
      ∀ dir, (((s.artifacts.filter fun a => a.dir c = dir).flatMap fun a =>
          t'.declared (a.path c)).Nodup ↔
        (s.artifacts.filter fun a => a.dir c = dir).Pairwise fun a b =>
          (a.names s.tables).Disjoint (b.names s.tables)) := by
  have hw := hc.wordPackages
  obtain ⟨u, hu, -, -⟩ := generate_eq_ok hrun
  have hsync := generate_of_dirs hu
  rw [hrun, Prod.mk.injEq, Except.ok.injEq] at hsync
  obtain ⟨rfl, rfl⟩ := hsync
  rw [if_pos hmode] at hu
  have hdistinct : s.artifacts.Pairwise fun a b => ¬ u.SamePlace (a.path c) (b.path c) := by
    refine (List.pairwise_map.mp hpaths).imp fun hne hsame => ?_
    obtain ⟨q, hq, hq'⟩ := hsame
    exact hne (Artifact.path_eq_of_samePlace hw hq hq')
  have hnew := syncAll_new hmode hdistinct
    (fun a _ => not_readText_of_isFresh hw hfresh (makeAllDirs_spec hu).1 a)
    (Report.failed_eq_false hok)
  have hone : ∀ a ∈ s.artifacts,
      (syncAll s.tables c s.artifacts u).2.declared (a.path c) = a.names s.tables ∧
        (a.names s.tables).Nodup := by
    intro a ha
    obtain ⟨-, text, hcontent, hread⟩ := hnew a ha
    obtain ⟨⟨g, hg, hnames⟩, hnodup⟩ := Artifact.content_new_names hs hq hc hi ha hcontent
    exact ⟨(declared_eq hread hg).trans hnames, hnodup⟩
  refine ⟨fun a ha => (hone a ha).1, fun dir => ?_⟩
  have hdir : ∀ a ∈ s.artifacts.filter fun a => a.dir c = dir, a ∈ s.artifacts :=
    fun a ha => List.mem_of_mem_filter ha
  rw [List.nodup_flatMap]
  constructor
  · rintro ⟨-, hp⟩
    refine hp.imp_of_mem fun ha hb hd => ?_
    simpa only [Function.onFun, (hone _ (hdir _ ha)).1, (hone _ (hdir _ hb)).1] using hd
  · intro hp
    refine ⟨fun a ha => (hone a (hdir a ha)).1 ▸ (hone a (hdir a ha)).2,
      hp.imp_of_mem fun ha hb hd => ?_⟩
    simpa only [Function.onFun, (hone _ (hdir _ ha)).1, (hone _ (hdir _ hb)).1] using hd

/-- Users, with a query whose rows are those of the table and one that has its own. -/
def userQueries : Schema where
  tables :=
    [{ name := "users", columns := [⟨"id", { name := "integer" }⟩, ⟨"name", { name := "text" }⟩] }]
  queries :=
    [{ name := "list_users", shape := .rows, sql := "SELECT id, name FROM users",
       columns := [{ name := "id", type := { name := "integer" } },
         { name := "name", type := { name := "text" } }] },
      { name := "find_name", shape := .row, sql := "SELECT name FROM users WHERE id = $1",
        parameters := [⟨"id", { name := "integer" }, 1⟩],
        columns := [{ name := "name", type := { name := "text" } }] }]

lemma userQueries_plain : userQueries.Plain :=
  ⟨by decide, by decide, by decide⟩

lemma userQueries_queries : ∀ q ∈ userQueries.queries, q.Plain := by
  simp only [userQueries, List.forall_mem_cons]
  exact ⟨⟨by decide, by decide, by decide⟩,
    ⟨by decide, by decide, by decide⟩, by simp⟩

/-- The tree in which the files of `userQueries` are made. -/
def userQueriesTree : FileTree :=
  { entries := [(["out", "queries"], .dir), (["out", "models"], .dir), (["out"], .dir)] }

lemma generate_userQueries :
    generate userQueries { output := "out" } {} =
      (.ok (syncAll userQueries.tables { output := "out" } userQueries.artifacts
          userQueriesTree).1,
        (syncAll userQueries.tables { output := "out" } userQueries.artifacts
          userQueriesTree).2) :=
  generate_of_dirs (by decide)

theorem generate_declares_userQueries :
    ∃ r t', generate userQueries { output := "out" } {} = (.ok r, t') ∧ r.isFailure = false ∧
      (∀ a ∈ userQueries.artifacts,
        t'.declared (a.path { output := "out" }) = a.names userQueries.tables) ∧
      ∀ dir, (((userQueries.artifacts.filter fun a => a.dir { output := "out" } = dir).flatMap
          fun a => t'.declared (a.path { output := "out" })).Nodup ↔
        (userQueries.artifacts.filter fun a => a.dir { output := "out" } = dir).Pairwise
          fun a b => (a.names userQueries.tables).Disjoint (b.names userQueries.tables)) := by
  have hok : Report.isFailure (syncAll userQueries.tables { output := "out" }
      userQueries.artifacts userQueriesTree).1 = false := by decide +kernel
  exact ⟨_, _, generate_userQueries, hok,
    generate_declares (c := { output := "out" }) userQueries_plain userQueries_queries
      ⟨by decide, by decide⟩ ⟨by decide, by decide⟩
      (by decide) (fun q hq => by simp [get?, hq]) rfl generate_userQueries hok⟩

/-! ### A name that is declared twice -/

/-- A table that is called as the container of another one. -/
def usersAndExtension : Schema where
  tables :=
    [{ name := "users", columns := [⟨"id", { name := "integer" }⟩] },
      { name := "users_extension", columns := [⟨"id", { name := "integer" }⟩] }]

/-- The tree in which the files of `usersAndExtension` are made. -/
def usersTree : FileTree := { entries := [(["out", "models"], .dir), (["out"], .dir)] }

lemma generate_users :
    generate usersAndExtension { output := "out" } {} =
      (.ok (syncAll usersAndExtension.tables { output := "out" } usersAndExtension.artifacts
          usersTree).1,
        (syncAll usersAndExtension.tables { output := "out" } usersAndExtension.artifacts
          usersTree).2) :=
  generate_of_dirs (by decide)

/-- The struct of the second table is the container of the first one too. -/
theorem generate_users_twice :
    ∃ r t', generate usersAndExtension { output := "out" } {} = (.ok r, t') ∧
      r.isFailure = false ∧ "UsersExtension" ∈ t'.declared "out/models/users.go" ∧
      "UsersExtension" ∈ t'.declared "out/models/users_extension.go" :=
  ⟨_, _, generate_users, by decide +kernel, by decide +kernel, by decide +kernel⟩

end SchemaGo
