import Mathlib
import SchemaGo.Proofs.Run.Overwrite

/-!
Failures in a run. A file that cannot be made leaves the tree as it is and stops no other file, so
a run does what it would do for the other files alone.
-/

namespace SchemaGo

open FileTree

/-! ### What a visit does -/

/-- The trees differ in one file at most, which holds the text `new` in the second. -/
structure FileTree.ChangesOnly (t u : FileTree) (p : Place) (new : String) : Prop where
  current : u.current = t.current
  here : u.get? p = some (.text new)
  elsewhere : ∀ q, q ≠ p → u.get? q = t.get? q

lemma FileTree.changesOnly_put {t : FileTree} {p : Place} (h : t.get? p ≠ some .dir)
    (new : String) : t.ChangesOnly (t.put p (.text new)) p new where
  current := rfl
  here := get?_put_self t _ (ne_nil_of_not_dir h)
  elsewhere _ hq := get?_put_of_ne t _ hq

lemma FileTree.get?_of_existing_none {t : FileTree} {path : String} {p : Place}
    (h : t.existing path = .ok none) (hp : t.locate path = .ok p) : t.get? p = none := by
  unfold existing readText at h
  rw [hp] at h
  rcases hg : t.get? p with _ | _ | _ | _ <;> simp_all

section

variable {tables : List Table} {c : Config}

/-- What a visit of a run does to the tree, by what it reports. -/
inductive Visit.Effect (tables : List Table) (c : Config) (v : Visit) : Prop
  | failed (f : Failure) (result : v.result tables c = .error f)
      (same : v.next tables c = v.tree)
  | unchanged (result : v.result tables c = .ok .unchanged) (same : v.next tables c = v.tree)
  | created (p : Place) (new : String) (result : v.result tables c = .ok .created)
      (place : v.tree.locate (v.path c) = .ok p) (absent : v.tree.get? p = none)
      (text : v.text? tables c = some new)
      (change : v.tree.ChangesOnly (v.next tables c) p new)
  | updated (p : Place) (old new : String) (result : v.result tables c = .ok .updated)
      (place : v.tree.locate (v.path c) = .ok p) (there : v.tree.get? p = some (.text old))
      (text : v.text? tables c = some new) (changed : old ≠ new)
      (change : v.tree.ChangesOnly (v.next tables c) p new)

lemma Visit.effect (tables : List Table) (hmode : c.mode = .write) (v : Visit) :
    v.Effect tables c := by
  rcases v.synced tables c with ⟨f, hresult, hnext⟩ | hsync
  · exact .failed f hresult hnext
  generalize hresult : v.result tables c = r, hnext : v.next tables c = u at hsync
  cases hsync with
  | unreadable f read => exact .failed f hresult hnext
  | refused old f read rendered => exact .failed f hresult hnext
  | unchanged s read rendered => exact .unchanged hresult hnext
  | stale old new read rendered changed check => simp [hmode] at check
  | failed old new e read rendered changed write wrote => exact .failed _ hresult hnext
  | stored old new u read rendered changed write wrote =>
    have htext := text?_eq_some read rendered
    obtain ⟨p, hp, hd, rfl⟩ := writeText_eq_ok wrote
    have hchange : v.tree.ChangesOnly (v.next tables c) p new := hnext ▸ changesOnly_put hd new
    cases old with
    | none => exact .created p new hresult hp (get?_of_existing_none read hp) htext hchange
    | some x =>
      obtain ⟨q, hq, hx⟩ := readText_eq_ok.mp (existing_eq_some.mp read)
      obtain rfl : p = q := Except.ok.inj (hp.symm.trans hq)
      exact .updated p x new hresult hp hx htext (fun h => changed (congrArg some h)) hchange

lemma Outcome.failed_iff {o : Outcome} : o.failed = true ↔ ∃ f, o.result = .error f := by
  rcases h : o.result with f | st <;> simp [failed, status?, h, Except.toOption]

lemma Visit.next_of_failed (hmode : c.mode = .write) {v : Visit}
    (h : (v.outcome tables c).failed = true) : v.next tables c = v.tree := by
  obtain ⟨f, hf⟩ := Outcome.failed_iff.mp h
  have hf : v.result tables c = .error f := hf
  cases v.effect tables hmode with
  | failed _ _ same => exact same
  | unchanged _ same => exact same
  | created _ _ result => simp [hf] at result
  | updated _ _ _ result => simp [hf] at result

/-! ### The visits that do not fail -/

lemma syncAll_eq_foldl (tables : List Table) (c : Config) (as : List Artifact) (t : FileTree) :
    (syncAll tables c as t).2 = as.foldl (fun u a => (a.sync tables c u).2) t := by
  induction as generalizing t with
  | nil => rfl
  | cons a as ih => exact ih _

lemma map_syncAll {α : Type} (f : String → String → α) (tables : List Table) (c : Config)
    (as : List Artifact) (t : FileTree) :
    (syncAll tables c as t).1.map (fun o => f o.label o.path) =
      as.map fun a => f a.label (a.path c) := by
  induction as generalizing t with
  | nil => rfl
  | cons a as ih => rw [syncAll_cons_eq, List.map_cons, List.map_cons, ih]

/-- The artifacts of the visits that do not fail. -/
def succeeding (tables : List Table) (c : Config) (vs : List Visit) : List Artifact :=
  (vs.filter fun v => !(v.outcome tables c).failed).map Visit.artifact

/-- What fails may as well be left out. -/
lemma syncAll_succeeding (hmode : c.mode = .write) (as : List Artifact) (t : FileTree) :
    syncAll tables c (succeeding tables c (visits tables c as t)) t =
      ((syncAll tables c as t).1.filter (!·.failed), (syncAll tables c as t).2) := by
  induction as generalizing t with
  | nil => rfl
  | cons a as ih =>
    have ih := ih (a.sync tables c t).2
    unfold succeeding at ih ⊢
    have hout : (⟨a.label, a.path c, (a.sync tables c t).1⟩ : Outcome) =
        Visit.outcome tables c ⟨a, t⟩ := rfl
    by_cases hf : (Visit.outcome tables c ⟨a, t⟩).failed = true
    · have hsame : (a.sync tables c t).2 = t := Visit.next_of_failed hmode hf
      rw [visits, List.filter_cons_of_neg (by simpa using hf), syncAll_cons_eq, hout,
        List.filter_cons_of_neg (by simpa using hf), ← ih, hsame]
    · rw [visits, List.filter_cons_of_pos (by simpa using hf), List.map_cons, syncAll_cons_eq, ih,
        syncAll_cons_eq, hout, List.filter_cons_of_pos (by simpa using hf)]

end

/-! ### A whole run -/

lemma Report.isFailure_iff {r : Report} :
    r.isFailure = true ↔ ∃ o ∈ r, (∃ f, o.result = .error f) ∨ o.result = .ok .stale := by
  have hstale : ∀ o : Outcome, o.status? = some .stale ↔ o.result = .ok .stale := by
    intro o
    rcases h : o.result with f | st <;> simp [Outcome.status?, h, Except.toOption]
  have hcount : r.isFailure = true ↔ 0 < r.summary.failed ∨ 0 < r.summary.stale := by
    simp [Report.isFailure]
  rw [hcount]
  simp only [Report.summary, Report.tally, List.countP_pos_iff, Outcome.failed_iff, beq_iff_eq,
    hstale]
  constructor
  · rintro (⟨o, ho, h⟩ | ⟨o, ho, h⟩)
    · exact ⟨o, ho, .inl h⟩
    · exact ⟨o, ho, .inr h⟩
  · rintro ⟨o, ho, h | h⟩
    · exact .inl ⟨o, ho, h⟩
    · exact .inr ⟨o, ho, h⟩

/-- A run from the tree `t` to the tree `t'` with the report `r`, in which each file is one step
and those that fail change nothing. -/
structure Isolated (s : Schema) (c : Config) (t : FileTree) (r : Report) (t' : FileTree) :
    Prop where
  /-- There is one outcome for each item, in order. -/
  labels : r.map (·.label) =
    s.tables.map ("table " ++ ·.name) ++ s.enums.map ("enum " ++ ·.name) ++
      s.composites.map ("composite " ++ ·.name) ++
      if s.queries.isEmpty then [] else "querier" :: s.queries.map ("query " ++ ·.name)
  paths : r.map (·.path) = s.artifacts.map (·.path c)
  /-- The tree is the last of those that the steps make one from the other. -/
  tree : t' = s.artifacts.foldl (fun u a => (a.sync s.tables c u).2) t
  outcomes : r = (visits s.tables c s.artifacts t).map (Visit.outcome s.tables c)
  effects : ∀ v ∈ visits s.tables c s.artifacts t, v.Effect s.tables c
  /-- The files that do not fail give the same tree and the same outcomes without the others. -/
  withoutFailures : syncAll s.tables c (succeeding s.tables c (visits s.tables c s.artifacts t)) t =
    (r.filter (!·.failed), t')
  failure : r.isFailure = true ↔ ∃ o ∈ r, (∃ f, o.result = .error f) ∨ o.result = .ok .stale

/-- **A file that fails stays alone.** A run that starts visits every item once and in order, and
does to the tree what it would do for those that do not fail. -/
theorem generate_isolated {s : Schema} {c : Config} {t t' : FileTree} {r : Report}
    (hmode : c.mode = .write) (hrun : generate s c t = (.ok r, t')) :
    ∃ u, t.makeAllDirs (s.outputDirs c) = (.ok (), u) ∧ Isolated s c u r t' := by
  obtain ⟨u, hu, rfl, rfl⟩ := generate_starts hrun
  rw [if_pos hmode] at hu
  refine ⟨u, hu, ?_, map_syncAll (fun _ path => path) _ _ _ _, syncAll_eq_foldl _ _ _ _,
    report_eq_visits _ _ _ _, fun v _ => v.effect _ hmode, syncAll_succeeding hmode _ _,
    Report.isFailure_iff⟩
  rw [map_syncAll (fun label _ => label)]
  unfold Schema.artifacts
  split <;> simp [Artifact.label, Function.comp_def]

/-- A table whose file cannot be read, and an enum. -/
def posts : Schema where
  tables := [{ name := "blog_posts", columns := [⟨"id", { name := "bigint" }⟩] }]
  enums := [{ name := "mood", values := ["happy"] }]

def postsTree : FileTree where
  entries :=
    [(["out"], .dir), (["out", "models"], .dir),
      (["out", "models", "blog_posts.go"], .text "package models\n\ntype \x7b\n")]

lemma generate_posts :
    generate posts { output := "out" } postsTree =
      (.ok (syncAll posts.tables { output := "out" } posts.artifacts postsTree).1,
        (syncAll posts.tables { output := "out" } posts.artifacts postsTree).2) :=
  generate_of_dirs (by decide)

theorem generate_isolated_posts :
    ∃ r t', generate posts { output := "out" } postsTree = (.ok r, t') ∧
      r.map (·.status?) = [none, some .created] ∧
      ∃ u, postsTree.makeAllDirs (posts.outputDirs { output := "out" }) = (.ok (), u) ∧
        Isolated posts { output := "out" } u r t' :=
  ⟨_, _, generate_posts, by decide, generate_isolated rfl generate_posts⟩

end SchemaGo
