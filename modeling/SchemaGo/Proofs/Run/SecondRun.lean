import Mathlib
import SchemaGo.Proofs.Merge.Plain
import SchemaGo.Proofs.Run.Overwrite
import SchemaGo.Proofs.Run.Places

/-!
Running twice. What a run makes in a fresh directory for a schema with plain names is a fixed
point of the whole run: a second one finds every file as it would make it.
-/

namespace SchemaGo

open FileTree

/-! ### What is assumed -/

/-- The items that have model files have plain names. -/
structure Schema.Plain (s : Schema) : Prop where
  tables : ∀ t ∈ s.tables, (Merge.Model.table t).Plain
  enums : ∀ e ∈ s.enums, (Merge.Model.enum e).Plain
  composites : ∀ c ∈ s.composites, (Merge.Model.composite c).Plain

/-- The packages have plain names. -/
structure Config.Plain (c : Config) : Prop where
  models : isPlainName c.modelsPackage = true
  queries : isPlainName c.queriesPackage = true

/-- There is nothing below the path. The directory itself is there or not. -/
def FileTree.IsFresh (t : FileTree) (path : String) : Prop :=
  ∀ q, q ≠ [] → t.get? (t.target path ++ q) = none

variable {s : Schema} {c : Config} {t u : FileTree} {as : List Artifact} {tables : List Table}

lemma Schema.Plain.model (hs : s.Plain) {m : Merge.Model} (h : Artifact.model m ∈ s.artifacts) :
    m.Plain := by
  unfold Schema.artifacts at h
  simp only [List.mem_append, List.mem_map] at h
  rcases h with ((⟨t, ht, he⟩ | ⟨e, he', he⟩) | ⟨x, hx, he⟩) | h
  · exact Artifact.model.inj he ▸ hs.tables t ht
  · exact Artifact.model.inj he ▸ hs.enums e he'
  · exact Artifact.model.inj he ▸ hs.composites x hx
  · split at h <;> simp at h

lemma Config.Plain.wordPackages (hc : c.Plain) : Artifact.WordPackages c :=
  ⟨isWord_of_isPlainName hc.models, isWord_of_isPlainName hc.queries⟩

/-! ### One file -/

/-- The file is there with a text that is made from itself. -/
def Artifact.Settled (tables : List Table) (c : Config) (t : FileTree) (a : Artifact) : Prop :=
  a.blocked? c = none ∧
    ∃ text, t.readText (a.path c) = .ok text ∧ a.content tables c (some text) = .ok text

/-- What is made without an old file is made from itself. -/
lemma content_again (hc : c.Plain) {a : Artifact} (ha : ∀ m, a = .model m → m.Plain)
    {text : String} (h : a.content tables c none = .ok text) :
    a.content tables c (some text) = .ok text := by
  cases a with
  | querier => exact h
  | query q => exact h
  | model m =>
    simp only [Artifact.content] at h ⊢
    rcases hm : Merge.mergeSource m none c.modelsPackage with e | out
    · simp [hm, Except.mapError] at h
    · obtain rfl : out = text := by simpa [hm, Except.mapError] using h
      rw [Merge.mergeSource_new (ha m rfl).legal (isWord_of_isPlainName hc.models) hm]
      rfl

/-- A file that is settled is left as it is. -/
lemma Artifact.Settled.sync {a : Artifact} (h : a.Settled tables c t) :
    a.sync tables c t = (.ok .unchanged, t) := by
  obtain ⟨hb, text, hr, hcontent⟩ := h
  have he : t.existing (a.path c) = .ok (some text) := existing_eq_some.mpr hr
  rw [Artifact.sync, hb]
  simp only [FileTree.sync, he, hcontent, if_pos]

lemma syncAll_settled (h : ∀ a ∈ as, a.Settled tables c t) :
    syncAll tables c as t = (as.map fun a => ⟨a.label, a.path c, .ok .unchanged⟩, t) := by
  induction as with
  | nil => rfl
  | cons a as ih =>
    rw [syncAll, (h a (by simp)).sync, List.map_cons]
    simp only [ih fun b hb => h b (by simp [hb])]

/-! ### The first run -/

/-- What is new in a file of its own is written, and the file is not yet there for the others. -/
lemma not_readText_of_writeText {path path' new : String} (h : t.writeText path new = .ok u)
    (hn : ∀ x, t.readText path' ≠ .ok x) (hp : ¬ t.SamePlace path path') :
    ∀ x, u.readText path' ≠ .ok x := by
  intro x hx
  obtain ⟨p, hp', hd, rfl⟩ := writeText_eq_ok h
  obtain ⟨q, hq, hg⟩ := readText_eq_ok.mp hx
  have hq' := (sameDirs_put hd new).symm.locate_eq_ok hq
  have hne : q ≠ p := by
    rintro rfl
    exact hp ⟨q, hp', hq'⟩
  rw [get?_put_of_ne t _ hne] at hg
  exact hn x (readText_eq_ok.mpr ⟨q, hq', hg⟩)

lemma artifact_mem_of_visit {v : Visit} (h : v ∈ visits tables c as t) : v.artifact ∈ as := by
  have hm : v.artifact ∈ (visits tables c as t).map Visit.artifact := List.mem_map_of_mem h
  rwa [map_artifact_visits] at hm

/-- A run that succeeds writes every file that is not yet there, if no two have one place. -/
lemma syncAll_new (hmode : c.mode = .write)
    (hp : as.Pairwise fun a b => ¬ t.SamePlace (a.path c) (b.path c))
    (hn : ∀ a ∈ as, ∀ x, t.readText (a.path c) ≠ .ok x)
    (hok : ∀ o ∈ (syncAll tables c as t).1, o.failed = false) :
    ∀ a ∈ as, a.blocked? c = none ∧ ∃ text, a.content tables c none = .ok text ∧
      (syncAll tables c as t).2.readText (a.path c) = .ok text := by
  induction as generalizing t with
  | nil => simp
  | cons a as ih =>
    obtain ⟨hpa, hpas⟩ := List.pairwise_cons.mp hp
    have hfirst : Outcome.failed ⟨a.label, a.path c, (a.sync tables c t).1⟩ = false :=
      hok _ (by simp [syncAll])
    have hrest : ∀ o ∈ (syncAll tables c as (a.sync tables c t).2).1, o.failed = false :=
      fun o ho => hok o (by simp [syncAll, ho])
    rw [syncAll_cons]
    rcases a.sync_cases tables c t with ⟨f, -, hf⟩ | ⟨hb, hf⟩
    · rw [hf] at hfirst
      exact absurd hfirst (by simp [Outcome.failed, Outcome.status?, Except.toOption])
    have hsync := synced t (a.path c) c.mode (a.content tables c)
    rw [hf] at hfirst hrest ⊢
    generalize t.sync (a.path c) c.mode (a.content tables c) = r at hsync hfirst hrest ⊢
    cases hsync with
    | unreadable f read =>
      exact absurd hfirst (by simp [Outcome.failed, Outcome.status?, Except.toOption])
    | refused old f read rendered =>
      exact absurd hfirst (by simp [Outcome.failed, Outcome.status?, Except.toOption])
    | unchanged x read rendered =>
      exact absurd (existing_eq_some.mp read) (hn a (by simp) x)
    | stale old new read rendered changed check =>
      rw [hmode] at check
      exact absurd check (by simp)
    | failed old new e read rendered changed write wrote =>
      exact absurd hfirst (by simp [Outcome.failed, Outcome.status?, Except.toOption])
    | stored old new u read rendered changed write wrote =>
      have hold : old = none := by
        rcases old with _ | x
        · rfl
        · exact absurd (existing_eq_some.mp read) (hn a (by simp) x)
      subst hold
      have hdirs := writeText_sameDirs wrote
      have hself : (syncAll tables c as u).2.readText (a.path c) = .ok new := by
        refine readText_syncAll hmode (readText_writeText_self wrote) fun w hw _ hsame => ?_
        exact absurd (hdirs.symm.samePlace hsame).symm (hpa _ (artifact_mem_of_visit hw))
      have hothers := ih (hpas.imp fun hab hs => hab (hdirs.symm.samePlace hs))
        (fun b hb => not_readText_of_writeText wrote (hn b (by simp [hb])) (hpa b hb)) hrest
      intro b hb'
      rcases List.mem_cons.mp hb' with rfl | hb'
      · exact ⟨hb, new, rendered, hself⟩
      · exact hothers b hb'

/-- In a fresh directory no file is there yet, also when directories have been made in it. -/
lemma not_readText_of_isFresh (hc : Artifact.WordPackages c) (h : t.IsFresh c.output)
    (hg : Grows t u) (a : Artifact) : ∀ x, u.readText (a.path c) ≠ .ok x := by
  intro x hx
  obtain ⟨q, hq, htext⟩ := readText_eq_ok.mp hx
  obtain ⟨p, hp, rfl⟩ := Artifact.locate_path hc hq
  obtain rfl : p = t.target c.output := by
    rw [walk_eq_foldl hp, target, hg.within.start]
  rcases hg.added _ _ htext with hdir | ht
  · exact absurd hdir (by simp)
  · rw [h _ (by simp)] at ht
    exact absurd ht (by simp)

/-! ### The second run -/

lemma Report.failed_eq_false {r : Report} (h : r.isFailure = false) :
    ∀ o ∈ r, o.failed = false := by
  simp only [Report.isFailure, Report.summary, Bool.or_eq_false_iff, decide_eq_false_iff_not,
    gt_iff_lt, Nat.not_lt, Nat.le_zero] at h
  intro o ho
  simpa using List.countP_eq_zero.mp h.1 o ho

/-- The report of a run in which nothing has changed. -/
lemma isFailure_unchanged (as : List Artifact) (c : Config) :
    Report.isFailure (as.map fun a => ⟨a.label, a.path c, .ok .unchanged⟩) = false := by
  simp only [Report.isFailure, Report.summary, Report.tally, Bool.or_eq_false_iff,
    decide_eq_false_iff_not, gt_iff_lt, Nat.not_lt, Nat.le_zero, List.countP_eq_zero]
  constructor
  · intro o ho
    obtain ⟨a, -, rfl⟩ := List.mem_map.mp ho
    simp [Outcome.failed, Outcome.status?, Except.toOption]
  · intro o ho
    obtain ⟨a, -, rfl⟩ := List.mem_map.mp ho
    simp [Outcome.status?, Except.toOption]

lemma hasDir_of_outputDirs (hc : Artifact.WordPackages c)
    (h : t.makeAllDirs (s.outputDirs c) = (.ok (), u)) :
    ∀ d ∈ s.outputDirs c, u.hasDir d = true := by
  intro d hd
  refine (makeAllDirs_spec h).2 d hd ?_
  unfold Schema.outputDirs at hd
  rcases List.mem_append.mp hd with hd | hd
  · split at hd
    · obtain rfl := List.mem_singleton.mp hd
      exact upwards_join_ne_nil (Artifact.isName_of_isWord hc.1) _
    · simp at hd
  · split at hd
    · simp at hd
    · obtain rfl := List.mem_singleton.mp hd
      exact upwards_join_ne_nil (Artifact.isName_of_isWord hc.2) _

/-- Neither the paths nor the texts hang on the mode. -/
lemma Artifact.Settled.setMode {a : Artifact} (h : a.Settled tables c t) (mode : Mode) :
    a.Settled tables { c with mode } t := by
  cases a <;> exact h

/-- **A fresh output is a fixed point of the whole run.** When a run into a directory with nothing
in it has succeeded, a second run finds every file unchanged, and a check none out of date. -/
theorem generate_again {t' : FileTree} {r : Report} (hs : s.Plain) (hc : c.Plain)
    (hpaths : (s.artifacts.map fun a => a.path c).Nodup) (hfresh : t.IsFresh c.output)
    (hmode : c.mode = .write) (hrun : generate s c t = (.ok r, t')) (hok : r.isFailure = false)
    (mode : Mode) :
    ∃ r', generate s { c with mode } t' = (.ok r', t') ∧ r'.isFailure = false ∧
      r'.map (·.path) = s.artifacts.map (fun a => a.path c) ∧
      ∀ o ∈ r', o.status? = some .unchanged := by
  have hw := hc.wordPackages
  obtain ⟨u, hu, -, -⟩ := generate_eq_ok hrun
  have hsync := generate_of_dirs hu
  rw [hrun, Prod.mk.injEq, Except.ok.injEq] at hsync
  obtain ⟨rfl, rfl⟩ := hsync
  rw [if_pos hmode] at hu
  -- after the first run every file is settled
  have hdistinct : s.artifacts.Pairwise fun a b => ¬ u.SamePlace (a.path c) (b.path c) := by
    refine (List.pairwise_map.mp hpaths).imp fun hne hsame => ?_
    obtain ⟨q, hq, hq'⟩ := hsame
    exact hne (Artifact.path_eq_of_samePlace hw hq hq')
  have hnew := syncAll_new hmode hdistinct
    (fun a _ => not_readText_of_isFresh hw hfresh (makeAllDirs_spec hu).1 a)
    (Report.failed_eq_false hok)
  have hsettled : ∀ a ∈ s.artifacts,
      a.Settled s.tables { c with mode } (syncAll s.tables c s.artifacts u).2 := by
    intro a ha
    obtain ⟨hb, text, hcontent, hread⟩ := hnew a ha
    have hagain := content_again hc (fun m hm => hs.model (hm ▸ ha)) hcontent
    exact Artifact.Settled.setMode ⟨hb, text, hread, hagain⟩ mode
  -- and every directory is there
  have hdirs := sameDirs_syncAll s.tables c s.artifacts u
  have hmade : (syncAll s.tables c s.artifacts u).2.makeAllDirs
      (if mode = .write then s.outputDirs c else []) =
        (.ok (), (syncAll s.tables c s.artifacts u).2) := by
    refine makeAllDirs_of_hasDir fun d hd => hdirs.within.hasDir ?_
    split at hd
    · exact hasDir_of_outputDirs hw hu d hd
    · simp at hd
  refine ⟨_, (generate_of_dirs hmade).trans (by rw [syncAll_settled hsettled]),
    isFailure_unchanged _ _, by rw [List.map_map]; rfl, fun o ho => ?_⟩
  obtain ⟨a, -, rfl⟩ := List.mem_map.mp ho
  rfl

/-- A table with odd column names, an enum with odd values and a composite. -/
def shop : Schema where
  tables :=
    [{ name := "users", columns :=
      [⟨"id", { name := "integer" }⟩, ⟨"2nd e-mail", { name := "text", isNullable := true }⟩,
        ⟨"created_at", { name := "timestamp" }⟩, ⟨"mood", { name := "mood", isArray := true }⟩] }]
  enums := [{ name := "mood", values := ["", "so-so", "\"a\\b\"\n"] }]
  composites := [{ name := "Address_2", columns := [⟨"zip", { name := "varchar" }⟩] }]

lemma shop_plain : shop.Plain := ⟨by decide, by decide, by decide⟩

/-- The tree in which the files of `shop` are made. -/
def shopTree : FileTree := { entries := [(["out", "models"], .dir), (["out"], .dir)] }

lemma generate_shop :
    generate shop { output := "out" } {} =
      (.ok (syncAll shop.tables { output := "out" } shop.artifacts shopTree).1,
        (syncAll shop.tables { output := "out" } shop.artifacts shopTree).2) :=
  generate_of_dirs (by decide)

lemma isFailure_shop :
    Report.isFailure (syncAll shop.tables { output := "out" } shop.artifacts shopTree).1 =
      false := by
  decide +kernel

theorem generate_again_shop :
    ∃ r t', generate shop { output := "out" } {} = (.ok r, t') ∧ r.isFailure = false ∧
      ∀ mode, ∃ r', generate shop { output := "out", mode } t' = (.ok r', t') ∧
        r'.isFailure = false ∧
        r'.map (·.path) = shop.artifacts.map (fun a => a.path { output := "out" }) ∧
        ∀ o ∈ r', o.status? = some .unchanged := by
  refine ⟨_, _, generate_shop, isFailure_shop, ?_⟩
  exact generate_again (c := { output := "out" }) shop_plain
    ⟨by decide, by decide⟩ (by decide) (fun q hq => by simp [get?, hq])
    rfl generate_shop isFailure_shop

end SchemaGo
