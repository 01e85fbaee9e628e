import Mathlib
import SchemaGo.Proofs.Run.Overwrite
import SchemaGo.Proofs.Run.Places

/-!
The order of the files in a run. A file reads and writes its own place alone, so files with places
of their own come out the same in whatever order they are made.
-/

namespace SchemaGo

open FileTree

/-! ### Trees that hold the same -/

namespace FileTree

variable {t u : FileTree} {path : String} {mode : Mode}
  {render : Option String → Except Failure String}

/-- The two trees cannot be told apart by what is found in them. -/
structure Same (t u : FileTree) : Prop where
  current : t.current = u.current
  entries : ∀ p, t.get? p = u.get? p

/-- The two trees cannot be told apart by what the path leads to. -/
structure SameAt (t u : FileTree) (path : String) : Prop where
  locate : t.locate path = u.locate path
  entry : ∀ p, t.locate path = .ok p → t.get? p = u.get? p

lemma Same.refl (t : FileTree) : t.Same t := ⟨rfl, fun _ => rfl⟩

lemma Same.trans {v : FileTree} (h : t.Same u) (h' : u.Same v) : t.Same v :=
  ⟨h.current.trans h'.current, fun p => (h.entries p).trans (h'.entries p)⟩

lemma SameAt.refl (t : FileTree) (path : String) : t.SameAt t path := ⟨rfl, fun _ _ => rfl⟩

lemma Same.sameAt (h : t.Same u) (path : String) : t.SameAt u path := by
  have hstep : t.step = u.step := by
    funext p x
    rw [step, step, h.entries]
  refine ⟨?_, fun p _ => h.entries p⟩
  rw [locate, locate, walk, walk, hstep, start, start, h.current]

namespace SameAt

lemma existing (h : t.SameAt u path) : t.existing path = u.existing path := by
  have hread : t.readText path = u.readText path := by
    unfold readText
    rw [← h.locate]
    rcases hl : t.locate path with e | p
    · rfl
    · simp only
      rw [h.entry p hl]
  rw [FileTree.existing, FileTree.existing, hread]

lemma store (h : t.SameAt u path) (old : Option String) (new : String) :
    (t.store path old new).1 = (u.store path old new).1 ∧
      ∀ p, t.locate path = .ok p →
        (t.store path old new).2.get? p = (u.store path old new).2.get? p := by
  unfold FileTree.store writeText
  rw [← h.locate]
  rcases hl : t.locate path with e | p
  · simp
  · simp only [Except.ok.injEq, forall_eq']
    rw [← h.entry p hl]
    by_cases hd : t.get? p = some .dir
    · simp only [if_pos hd]
      exact ⟨trivial, h.entry p hl⟩
    · have hp := ne_nil_of_not_dir hd
      simp only [if_neg hd]
      exact ⟨trivial, by rw [get?_put_self t _ hp, get?_put_self u _ hp]⟩

/-- Bringing a file up to date hangs on what its path leads to, and on nothing else. -/
lemma sync (h : t.SameAt u path) :
    (t.sync path mode render).1 = (u.sync path mode render).1 ∧
      ∀ p, t.locate path = .ok p →
        (t.sync path mode render).2.get? p = (u.sync path mode render).2.get? p := by
  unfold FileTree.sync
  rw [← h.existing]
  rcases t.existing path with f | old
  · exact ⟨rfl, h.entry⟩
  rcases hr : render old with f | new
  · simp only [hr]
    exact ⟨trivial, h.entry⟩
  simp only [hr]
  split
  · exact ⟨rfl, h.entry⟩
  · cases mode with
    | check => exact ⟨rfl, h.entry⟩
    | write => exact h.store old new

end SameAt

/-- Bringing a file up to date leaves all other places as they are. -/
lemma get?_sync_of_ne {q : Place} (h : t.locate path ≠ .ok q) :
    (t.sync path mode render).2.get? q = t.get? q := by
  have hsync := synced t path mode render
  generalize t.sync path mode render = r at hsync ⊢
  cases hsync with
  | stored old new u read rendered changed write wrote =>
    obtain ⟨p, hp, -, rfl⟩ := writeText_eq_ok wrote
    have hq : q ≠ p := by
      rintro rfl
      exact h hp
    exact get?_put_of_ne t _ hq
  | _ => rfl

end FileTree

/-! ### One file -/

namespace Artifact

variable {tables : List Table} {c : Config} {t u : FileTree} {a b : Artifact} {q : Place}

lemma sync_of_sameAt (tables : List Table) (h : t.SameAt u (a.path c)) :
    (a.sync tables c t).1 = (a.sync tables c u).1 ∧
      ∀ p, t.locate (a.path c) = .ok p →
        (a.sync tables c t).2.get? p = (a.sync tables c u).2.get? p := by
  unfold sync
  split
  · exact ⟨rfl, h.entry⟩
  · exact h.sync

lemma get?_sync_of_ne (h : t.locate (a.path c) ≠ .ok q) :
    (a.sync tables c t).2.get? q = t.get? q := by
  unfold sync
  split
  · rfl
  · exact FileTree.get?_sync_of_ne h

lemma sameDirs_sync (tables : List Table) (c : Config) (a : Artifact) (t : FileTree) :
    t.SameDirs (a.sync tables c t).2 :=
  Visit.sameDirs_next tables c ⟨a, t⟩

lemma sync_of_same (tables : List Table) (c : Config) (a : Artifact) (h : t.Same u) :
    (a.sync tables c t).1 = (a.sync tables c u).1 ∧
      (a.sync tables c t).2.Same (a.sync tables c u).2 := by
  have hat := h.sameAt (a.path c)
  refine ⟨(sync_of_sameAt tables hat).1, ?_, fun q => ?_⟩
  · rw [← (sameDirs_sync tables c a t).1, h.current, (sameDirs_sync tables c a u).1]
  · by_cases hq : t.locate (a.path c) = .ok q
    · exact (sync_of_sameAt tables hat).2 q hq
    · rw [get?_sync_of_ne hq, get?_sync_of_ne (hat.locate ▸ hq), h.entries]

/-- What the path of a file leads to is not changed by another file of the directory. -/
lemma sameAt_sync (tables : List Table) (hdir : a.dir c = b.dir c)
    (hne : ¬ t.SamePlace (a.path c) (b.path c)) : t.SameAt (a.sync tables c t).2 (b.path c) := by
  rcases Visit.next_cases tables c ⟨a, t⟩ with h | ⟨-, new, h⟩
  · rw [show (a.sync tables c t).2 = t from h]
    exact .refl t _
  · change t.writeText (a.path c) new = .ok (a.sync tables c t).2 at h
    have hdirs := writeText_sameDirs h
    obtain ⟨p, hp, -, hput⟩ := writeText_eq_ok h
    -- the directory is there, so the path of the other file leads to a place in it
    obtain ⟨r, hr, -⟩ := (locate_join a.isName_fileName).mp hp
    rw [hdir] at hr
    have hq := (locate_join b.isName_fileName).mpr ⟨r, hr, rfl⟩
    have hqp : r ++ [b.fileName ++ ".go"] ≠ p := by
      rintro rfl
      exact hne ⟨_, hp, hq⟩
    refine ⟨hq.trans (hdirs.locate_eq_ok hq).symm, fun q hq' => ?_⟩
    obtain rfl := Except.ok.inj (hq'.symm.trans hq)
    rw [hput, get?_put_of_ne t _ hqp]

/-- Two files of a directory, each with its own place, can be made in either order. -/
lemma sync_comm (tables : List Table) (hdir : a.dir c = b.dir c)
    (hne : ¬ t.SamePlace (a.path c) (b.path c)) :
    (b.sync tables c (a.sync tables c t).2).1 = (b.sync tables c t).1 ∧
      (b.sync tables c (a.sync tables c t).2).2.Same (a.sync tables c (b.sync tables c t).2).2 := by
  have hta := sameAt_sync tables hdir hne
  have htb := sameAt_sync tables hdir.symm fun h => hne h.symm
  have hb := sync_of_sameAt tables hta
  have ha := sync_of_sameAt tables htb
  refine ⟨hb.1.symm, ?_, fun q => ?_⟩
  · rw [← (sameDirs_sync tables c b _).1, ← (sameDirs_sync tables c a t).1,
      ← (sameDirs_sync tables c a _).1, ← (sameDirs_sync tables c b t).1]
  -- at the place of either file its own step counts, and elsewhere none
  have hlast_b : t.locate (b.path c) ≠ .ok q →
      (b.sync tables c (a.sync tables c t).2).2.get? q = (a.sync tables c t).2.get? q :=
    fun h => get?_sync_of_ne (hta.locate ▸ h)
  have hlast_a : t.locate (a.path c) ≠ .ok q →
      (a.sync tables c (b.sync tables c t).2).2.get? q = (b.sync tables c t).2.get? q :=
    fun h => get?_sync_of_ne (htb.locate ▸ h)
  by_cases hqa : t.locate (a.path c) = .ok q
  · rw [hlast_b fun h => hne ⟨q, hqa, h⟩, ha.2 q hqa]
  · by_cases hqb : t.locate (b.path c) = .ok q
    · rw [hlast_a hqa, hb.2 q hqb]
    · rw [hlast_b hqb, hlast_a hqa, get?_sync_of_ne hqa, get?_sync_of_ne hqb]

end Artifact

/-! ### All files of a directory -/

section

variable {tables : List Table} {c : Config} {t u : FileTree} {as bs : List Artifact}

/-- No two of the files have one place. -/
def Apart (c : Config) (t : FileTree) (as : List Artifact) : Prop :=
  as.Pairwise fun a b => ¬ t.SamePlace (a.path c) (b.path c)

lemma Apart.sameDirs (h : Apart c t as) (hd : t.SameDirs u) : Apart c u as :=
  h.imp fun hne hs => hne (hd.symm.samePlace hs)

lemma Apart.perm (h : Apart c t as) (hp : as.Perm bs) : Apart c t bs :=
  hp.pairwise h fun hne hs => hne hs.symm

/-- In a directory the places of files are as distinct as their paths. -/
lemma apart_of_nodup {dir : String} (hdir : ∀ a ∈ as, a.dir c = dir)
    (hpaths : (as.map (·.path c)).Nodup) (t : FileTree) : Apart c t as := by
  refine (List.pairwise_map.mp hpaths).imp_of_mem fun ha hb hne => ?_
  rintro ⟨q, hqa, hqb⟩
  obtain ⟨r, ⟨hr, -⟩, rfl⟩ := (locate_join (Artifact.isName_fileName _)).mp hqa
  obtain ⟨r', ⟨hr', -⟩, heq⟩ := (locate_join (Artifact.isName_fileName _)).mp hqb
  rw [hdir _ ha] at hr
  rw [hdir _ hb] at hr'
  obtain rfl := Except.ok.inj (hr.symm.trans hr')
  obtain hname := List.append_cancel_left heq
  refine hne ?_
  rw [Artifact.path, Artifact.path, hdir _ ha, hdir _ hb, List.singleton_inj.mp hname]

lemma length_syncAll (as : List Artifact) (t : FileTree) :
    (syncAll tables c as t).1.length = as.length := by
  rw [report_eq_visits, List.length_map, ← List.length_map, map_artifact_visits]

lemma syncAll_append (as bs : List Artifact) (t : FileTree) :
    syncAll tables c (as ++ bs) t =
      ((syncAll tables c as t).1 ++ (syncAll tables c bs (syncAll tables c as t).2).1,
        (syncAll tables c bs (syncAll tables c as t).2).2) := by
  induction as generalizing t with
  | nil => rfl
  | cons a as ih => rw [List.cons_append, syncAll_cons_eq, ih, syncAll_cons_eq, List.cons_append]

lemma syncAll_of_same (h : t.Same u) :
    (syncAll tables c as t).1 = (syncAll tables c as u).1 ∧
      (syncAll tables c as t).2.Same (syncAll tables c as u).2 := by
  induction as generalizing t u with
  | nil => exact ⟨rfl, h⟩
  | cons a as ih =>
    obtain ⟨hresult, htree⟩ := Artifact.sync_of_same tables c a h
    obtain ⟨hrest, hlast⟩ := ih htree
    rw [syncAll_cons_eq, syncAll_cons_eq, hresult, hrest]
    exact ⟨rfl, hlast⟩

/-- Each file with its outcome. -/
def outcomes (tables : List Table) (c : Config) (as : List Artifact) (t : FileTree) :
    List (Artifact × Outcome) :=
  as.zip (syncAll tables c as t).1

lemma outcomes_cons (a : Artifact) (as : List Artifact) (t : FileTree) :
    outcomes tables c (a :: as) t =
      (a, ⟨a.label, a.path c, (a.sync tables c t).1⟩) ::
        outcomes tables c as (a.sync tables c t).2 := rfl

lemma map_snd_outcomes (as : List Artifact) (t : FileTree) :
    (outcomes tables c as t).map Prod.snd = (syncAll tables c as t).1 :=
  List.map_snd_zip (length_syncAll as t).le

lemma outcomes_append (as bs : List Artifact) (t : FileTree) :
    outcomes tables c (as ++ bs) t =
      outcomes tables c as t ++ outcomes tables c bs (syncAll tables c as t).2 := by
  rw [outcomes, syncAll_append, List.zip_append (length_syncAll as t).symm]
  rfl

lemma outcomes_of_same (h : t.Same u) : outcomes tables c as t = outcomes tables c as u := by
  rw [outcomes, (syncAll_of_same h).1, outcomes]

/-- The files of a directory come out the same in any order. The steps are exchanged one by one:
two neighbours commute, and what is behind them begins with trees that hold the same. -/
lemma syncAll_perm (tables : List Table) {dir : String} (hp : as.Perm bs)
    (hdir : ∀ a ∈ as, a.dir c = dir) (hne : Apart c t as) :
    (outcomes tables c as t).Perm (outcomes tables c bs t) ∧
      (syncAll tables c as t).2.Same (syncAll tables c bs t).2 := by
  induction hp generalizing t with
  | nil => exact ⟨.refl _, .refl _⟩
  | cons a hp ih =>
    obtain ⟨-, hdir⟩ := List.forall_mem_cons.mp hdir
    have hrest : Apart c (a.sync tables c t).2 _ :=
      Apart.sameDirs (List.pairwise_cons.mp hne).2 (a.sameDirs_sync tables c t)
    obtain ⟨houtcomes, htree⟩ := ih hdir hrest
    exact ⟨by simpa only [outcomes_cons] using houtcomes.cons _, htree⟩
  | swap a b as =>
    have hab : b.dir c = a.dir c := (hdir b (by simp)).trans (hdir a (by simp)).symm
    have hplaces : ¬ t.SamePlace (b.path c) (a.path c) :=
      (List.pairwise_cons.mp hne).1 a (by simp)
    obtain ⟨ha, htree⟩ := Artifact.sync_comm tables hab hplaces
    obtain ⟨hb, -⟩ := Artifact.sync_comm tables hab.symm fun h => hplaces h.symm
    refine ⟨?_, (syncAll_of_same htree).2⟩
    rw [outcomes_cons, outcomes_cons, outcomes_cons, outcomes_cons, ha, hb, outcomes_of_same htree]
    exact .swap _ _ _
  | trans hp _ ih ih' =>
    obtain ⟨houtcomes, htree⟩ := ih hdir hne
    obtain ⟨houtcomes', htree'⟩ := ih' (fun a ha => hdir a (hp.mem_iff.mpr ha)) (hne.perm hp)
    exact ⟨houtcomes.trans houtcomes', htree.trans htree'⟩

end

/-! ### The tables that the queries look at -/

/-- The set of the names of the columns. -/
def Table.columnNames (t : Table) : Finset String := (t.columns.map (·.name)).toFinset

lemma sameNames_iff {xs ys : List String} :
    sameNames xs ys = true ↔ xs.toFinset = ys.toFinset := by
  simp only [sameNames, Bool.and_eq_true, List.all_eq_true, List.contains_iff_mem,
    Finset.ext_iff, List.mem_toFinset]
  exact ⟨fun h x => ⟨h.1 x, h.2 x⟩, fun h => ⟨fun x => (h x).mp, fun x => (h x).mpr⟩⟩

/-- What is found in a list by a test that no two of its members pass is found in any order. -/
lemma find?_perm {α : Type} {p : α → Bool} {xs ys : List α} (hp : xs.Perm ys)
    (hone : xs.Pairwise fun x y => ¬ (p x = true ∧ p y = true)) : xs.find? p = ys.find? p := by
  rw [← List.head?_filter, ← List.head?_filter]
  have hf := hp.filter p
  have hpass : ∀ x ∈ xs.filter p, p x = true := fun x hx => (List.mem_filter.mp hx).2
  have hpair := hone.filter p
  rcases hxs : xs.filter p with _ | ⟨x, _ | ⟨y, zs⟩⟩
  · rw [hxs] at hf
    rw [hf.nil_eq]
  · rw [hxs] at hf
    rw [hf.singleton_eq]
  · rw [hxs] at hpair hpass
    have hxy := (List.pairwise_cons.mp hpair).1 y (by simp)
    exact absurd ⟨hpass x (by simp), hpass y (by simp)⟩ hxy

lemma Query.plan_perm {tables tables' : List Table} (hp : tables.Perm tables')
    (hcolumns : (tables.map Table.columnNames).Nodup) (q : Query) :
    q.plan tables = q.plan tables' := by
  have hreusable : q.reusable? tables = q.reusable? tables' := by
    unfold reusable?
    split
    · rfl
    · refine find?_perm hp ((List.pairwise_map.mp hcolumns).imp fun hne => ?_)
      rintro ⟨ht, ht'⟩
      exact hne ((sameNames_iff.mp ht).trans (sameNames_iff.mp ht').symm)
  simp only [plan, binding, hreusable]

lemma Artifact.sync_congr {tables tables' : List Table} (h : ∀ q : Query,
    q.plan tables = q.plan tables') (c : Config) (a : Artifact) :
    a.sync tables c = a.sync tables' c := by
  have hcontent : a.content tables c = a.content tables' c := by
    funext old
    cases a with
    | query q => simp only [content, Query.file, h q]
    | model m => rfl
    | querier => rfl
  funext t
  rw [sync, sync, hcontent]

lemma syncAll_congr {tables tables' : List Table} (h : ∀ q : Query,
    q.plan tables = q.plan tables') (c : Config) (as : List Artifact) (t : FileTree) :
    syncAll tables c as t = syncAll tables' c as t := by
  induction as generalizing t with
  | nil => rfl
  | cons a as ih => rw [syncAll_cons_eq, syncAll_cons_eq, a.sync_congr h, ih]

/-! ### A whole run -/

namespace Schema

/-- The two schemas have the same items, whatever their order. -/
structure Perm (s s' : Schema) : Prop where
  tables : s.tables.Perm s'.tables
  enums : s.enums.Perm s'.enums
  composites : s.composites.Perm s'.composites
  queries : s.queries.Perm s'.queries

/-- The files of the models package. -/
def modelArtifacts (s : Schema) : List Artifact :=
  s.tables.map (.model <| .table ·) ++ s.enums.map (.model <| .enum ·) ++
    s.composites.map (.model <| .composite ·)

/-- The files of the queries package. -/
def queryArtifacts (s : Schema) : List Artifact :=
  if s.queries.isEmpty then [] else .querier :: s.queries.map .query

lemma artifacts_eq_append (s : Schema) : s.artifacts = s.modelArtifacts ++ s.queryArtifacts := rfl

lemma dir_of_mem_modelArtifacts {s : Schema} (c : Config) :
    ∀ a ∈ s.modelArtifacts, a.dir c = c.modelsDir := by
  simp only [modelArtifacts, List.mem_append, List.mem_map]
  rintro a ((⟨x, -, rfl⟩ | ⟨x, -, rfl⟩) | ⟨x, -, rfl⟩) <;> rfl

lemma dir_of_mem_queryArtifacts {s : Schema} (c : Config) :
    ∀ a ∈ s.queryArtifacts, a.dir c = c.queriesDir := by
  intro a ha
  unfold queryArtifacts at ha
  split at ha
  · simp at ha
  · rcases List.mem_cons.mp ha with rfl | ha
    · rfl
    · obtain ⟨q, -, rfl⟩ := List.mem_map.mp ha
      rfl

namespace Perm

variable {s s' : Schema}

lemma modelArtifacts (h : s.Perm s') : s.modelArtifacts.Perm s'.modelArtifacts :=
  ((h.tables.map _).append (h.enums.map _)).append (h.composites.map _)

lemma queryArtifacts (h : s.Perm s') : s.queryArtifacts.Perm s'.queryArtifacts := by
  unfold Schema.queryArtifacts
  rw [h.queries.isEmpty_eq]
  split
  · exact .refl _
  · exact (h.queries.map _).cons _

lemma outputDirs (h : s.Perm s') (c : Config) : s.outputDirs c = s'.outputDirs c := by
  have hmodels : s.hasModels = s'.hasModels := by
    rw [hasModels, hasModels, h.tables.isEmpty_eq, h.enums.isEmpty_eq, h.composites.isEmpty_eq]
  rw [Schema.outputDirs, Schema.outputDirs, hmodels, h.queries.isEmpty_eq]

end Perm

end Schema

/-- **The order of the items does not matter.** Where the files have paths of their own and no two
tables the same columns, a run for the items in another order starts too, and gives a tree that
holds the same and the same outcome for every item. -/
theorem generate_perm {s s' : Schema} {c : Config} {t t' : FileTree} {r : Report}
    (hs : s.Perm s') (hpaths : (s.artifacts.map (·.path c)).Nodup)
    (hcolumns : (s.tables.map Table.columnNames).Nodup)
    (hrun : generate s c t = (.ok r, t')) :
    ∃ r' t'', generate s' c t = (.ok r', t'') ∧ t'.Same t'' ∧ r.Perm r' ∧
      (s.artifacts.zip r).Perm (s'.artifacts.zip r') := by
  obtain ⟨u, hu, rfl, rfl⟩ := generate_starts hrun
  rw [hs.outputDirs] at hu
  refine ⟨_, _, generate_of_dirs hu, ?_⟩
  have htables := syncAll_congr (Query.plan_perm hs.tables hcolumns) c s'.artifacts u
  rw [← htables]
  -- first the models in one order and the other, then the queries on what they leave
  rw [s.artifacts_eq_append, List.map_append] at hpaths
  obtain ⟨hmodels, hqueries, -⟩ := List.nodup_append.mp hpaths
  have hmodelDir := Schema.dir_of_mem_modelArtifacts (s := s) c
  have hqueryDir := Schema.dir_of_mem_queryArtifacts (s := s) c
  obtain ⟨hout, htree⟩ := syncAll_perm s.tables hs.modelArtifacts hmodelDir
    (apart_of_nodup hmodelDir hmodels u)
  obtain ⟨hout', htree'⟩ := syncAll_perm s.tables hs.queryArtifacts hqueryDir
    (apart_of_nodup hqueryDir hqueries (syncAll s.tables c s'.modelArtifacts u).2)
  have htrees :
      (syncAll s.tables c s.artifacts u).2.Same (syncAll s.tables c s'.artifacts u).2 := by
    rw [s.artifacts_eq_append, s'.artifacts_eq_append, syncAll_append, syncAll_append]
    exact (syncAll_of_same htree).2.trans htree'
  have hperm : (outcomes s.tables c s.artifacts u).Perm (outcomes s.tables c s'.artifacts u) := by
    rw [s.artifacts_eq_append, s'.artifacts_eq_append, outcomes_append, outcomes_append,
      outcomes_of_same htree]
    exact hout.append hout'
  exact ⟨htrees, by simpa only [map_snd_outcomes] using hperm.map Prod.snd, hperm⟩

/-- Two tables, and two queries with the rows of one of them. -/
def library : Schema where
  tables :=
    [{ name := "books", columns := [⟨"id", { name := "integer" }⟩, ⟨"title", { name := "text" }⟩] },
      { name := "readers", columns := [⟨"id", { name := "integer" }⟩] }]
  queries :=
    [{ name := "list_books", shape := .rows, sql := "SELECT id, title FROM books",
       columns := [{ name := "id", type := { name := "integer" } },
         { name := "title", type := { name := "text" } }] },
      { name := "list_readers", shape := .rows, sql := "SELECT id FROM readers",
        columns := [{ name := "id", type := { name := "integer" } }] }]

/-- The same the other way round. -/
def libraryReversed : Schema :=
  { library with tables := library.tables.reverse, queries := library.queries.reverse }

/-- The tree in which the files of `library` are made. -/
def libraryTree : FileTree :=
  { entries := [(["out", "queries"], .dir), (["out", "models"], .dir), (["out"], .dir)] }

lemma generate_library :
    generate library { output := "out" } {} =
      (.ok (syncAll library.tables { output := "out" } library.artifacts libraryTree).1,
        (syncAll library.tables { output := "out" } library.artifacts libraryTree).2) :=
  generate_of_dirs (by decide)

theorem generate_perm_library :
    library.artifacts ≠ libraryReversed.artifacts ∧
      ∃ r t', generate library { output := "out" } {} = (.ok r, t') ∧
        ∃ r' t'', generate libraryReversed { output := "out" } {} = (.ok r', t'') ∧ t'.Same t'' ∧
          r.Perm r' ∧ (library.artifacts.zip r).Perm (libraryReversed.artifacts.zip r') := by
  have hperm : library.Perm libraryReversed :=
    ⟨(List.reverse_perm _).symm, .refl _, .refl _, (List.reverse_perm _).symm⟩
  exact ⟨by decide, _, _, generate_library,
    generate_perm (c := { output := "out" }) hperm (by decide) (by decide)
      generate_library⟩

end SchemaGo
