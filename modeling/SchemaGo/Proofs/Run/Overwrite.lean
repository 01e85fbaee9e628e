import Mathlib
import SchemaGo.Proofs.Run.Visits

/-!
What a run leaves on disk. A later file of the run may stand at the place of an earlier one, and
then only the last of them is left; nothing else is ever lost.
-/

namespace SchemaGo

/-! ### Places -/

namespace FileTree

/-- The two paths lead to one place. -/
def SamePlace (t : FileTree) (path path' : String) : Prop :=
  ∃ p, t.locate path = .ok p ∧ t.locate path' = .ok p

variable {t u : FileTree} {path path' s : String}

lemma SamePlace.symm (h : t.SamePlace path path') : t.SamePlace path' path := by
  obtain ⟨p, hp, hp'⟩ := h
  exact ⟨p, hp', hp⟩

lemma SameDirs.samePlace (h : SameDirs t u) (hs : t.SamePlace path path') :
    u.SamePlace path path' := by
  obtain ⟨p, hp, hp'⟩ := hs
  exact ⟨p, h.locate_eq_ok hp, h.locate_eq_ok hp'⟩

lemma SamePlace.readText (h : t.SamePlace path path') : t.readText path = t.readText path' := by
  obtain ⟨p, hp, hp'⟩ := h
  exact readText_congr (hp.trans hp'.symm)

/-- Writing a file elsewhere does not change what is read. -/
lemma readText_writeText {s' : String} (h : t.writeText path s = .ok u)
    (hr : t.readText path' = .ok s') (hne : ¬ t.SamePlace path path') :
    u.readText path' = .ok s' := by
  refine readText_writeText_of_ne h hr fun he => hne ?_
  obtain ⟨p, hp, -⟩ := readText_eq_ok.mp hr
  exact ⟨p, he ▸ hp, hp⟩

end FileTree

/-! ### Later visits -/

section

variable {tables : List Table} {c : Config}

lemma sameDirs_syncAll (tables : List Table) (c : Config) (as : List Artifact) (t : FileTree) :
    t.SameDirs (syncAll tables c as t).2 := by
  induction as generalizing t with
  | nil => exact .refl t
  | cons a as ih =>
    rw [syncAll_cons]
    exact (Visit.sameDirs_next tables c ⟨a, t⟩).trans (ih _)

/-- A file keeps its text as long as no other text is written to its place. -/
lemma readText_syncAll (hmode : c.mode = .write) {as : List Artifact} {t : FileTree}
    {path s : String} (hr : t.readText path = .ok s)
    (hs : ∀ w ∈ visits tables c as t, w.Done tables c → t.SamePlace (w.path c) path →
      w.text? tables c = some s) :
    (syncAll tables c as t).2.readText path = .ok s := by
  induction as generalizing t with
  | nil => exact hr
  | cons a as ih =>
    rw [syncAll_cons]
    have hdirs := Visit.sameDirs_next tables c ⟨a, t⟩
    have hself := hs ⟨a, t⟩ (List.mem_cons_self ..)
    refine ih ?_ fun w hw hd hp => hs w (List.mem_cons_of_mem _ hw) hd (hdirs.symm.samePlace hp)
    rcases Visit.next_cases tables c ⟨a, t⟩ with he | ⟨hd, new, hw⟩
    · change (Visit.next tables c ⟨a, t⟩).readText path = .ok s
      rw [he]
      exact hr
    · by_cases hp : t.SamePlace (Visit.path c ⟨a, t⟩) path
      · obtain ⟨s', ht, hr'⟩ := hd.readText hmode
        obtain rfl : s' = s := by simpa [ht] using hself hd hp
        exact (hdirs.samePlace hp).readText ▸ hr'
      · exact FileTree.readText_writeText hw hr hp

/-- After the run the file of a visit that succeeds holds the text made for it, if no other text
is written to its place. -/
lemma Visit.Done.readText_run (hmode : c.mode = .write) {as : List Artifact} {t : FileTree}
    {v : Visit} (hv : v ∈ visits tables c as t) (hd : v.Done tables c)
    (hs : ∀ w ∈ visits tables c as t, w.Done tables c → t.SamePlace (w.path c) (v.path c) →
      w.text? tables c = v.text? tables c) :
    ∃ s, v.text? tables c = some s ∧ (syncAll tables c as t).2.readText (v.path c) = .ok s := by
  induction as generalizing t with
  | nil => simp [visits] at hv
  | cons a as ih =>
    have hdirs := Visit.sameDirs_next tables c ⟨a, t⟩
    rw [syncAll_cons]
    rcases List.mem_cons.mp hv with rfl | hv'
    · obtain ⟨s, ht, hr⟩ := hd.readText hmode
      refine ⟨s, ht, readText_syncAll hmode hr fun w hw hwd hp => ?_⟩
      exact (hs w (List.mem_cons_of_mem _ hw) hwd (hdirs.symm.samePlace hp)).trans ht
    · exact ih hv' fun w hw hwd hp =>
        hs w (List.mem_cons_of_mem _ hw) hwd (hdirs.symm.samePlace hp)

/-- Two visits of a run that succeed at one place make the same text there. -/
def Agree (tables : List Table) (c : Config) (t : FileTree) (vs : List Visit) : Prop :=
  ∀ v ∈ vs, ∀ w ∈ vs, v.Done tables c → w.Done tables c → t.SamePlace (v.path c) (w.path c) →
    v.text? tables c = w.text? tables c

/-- The file of every visit that succeeds holds in the end the text made for it. -/
def NothingLost (tables : List Table) (c : Config) (t : FileTree) (vs : List Visit) : Prop :=
  ∀ v ∈ vs, v.Done tables c →
    ∃ s, v.text? tables c = some s ∧ t.readText (v.path c) = .ok s

lemma nothingLost_iff_agree (hmode : c.mode = .write) (as : List Artifact) (t : FileTree) :
    NothingLost tables c (syncAll tables c as t).2 (visits tables c as t) ↔
      Agree tables c (syncAll tables c as t).2 (visits tables c as t) := by
  have hdirs := sameDirs_syncAll tables c as t
  constructor
  · intro h v hv w hw hvd hwd hp
    obtain ⟨s, hs, hr⟩ := h v hv hvd
    obtain ⟨s', hs', hr'⟩ := h w hw hwd
    rw [hp.readText, hr'] at hr
    rw [hs, hs', Except.ok.inj hr]
  · intro h v hv hvd
    exact hvd.readText_run hmode hv fun w hw hwd hp => h w hw v hv hwd hvd (hdirs.samePlace hp)

end

/-! ### A whole run -/

/-- A run that starts makes its directories and goes through all files. -/
lemma generate_starts {s : Schema} {c : Config} {t t' : FileTree} {r : Report}
    (h : generate s c t = (.ok r, t')) :
    ∃ u, t.makeAllDirs (if c.mode = .write then s.outputDirs c else []) = (.ok (), u) ∧
      r = (syncAll s.tables c s.artifacts u).1 ∧ t' = (syncAll s.tables c s.artifacts u).2 := by
  unfold generate at h
  rcases hm : t.makeAllDirs (if c.mode = .write then s.outputDirs c else []) with ⟨b | ⟨⟩, u⟩
  · simp [hm] at h
  · simp only [hm, Prod.mk.injEq, Except.ok.injEq] at h
    exact ⟨u, rfl, h.1.symm, h.2.symm⟩

lemma generate_eq_ok {s : Schema} {c : Config} {t t' : FileTree} {r : Report}
    (h : generate s c t = (.ok r, t')) :
    ∃ u, t.makeAllDirs (if c.mode = .write then s.outputDirs c else []) = (.ok (), u) ∧
      r = (visits s.tables c s.artifacts u).map (Visit.outcome s.tables c) ∧
      t' = (syncAll s.tables c s.artifacts u).2 := by
  obtain ⟨u, hu, hr, ht⟩ := generate_starts h
  exact ⟨u, hu, hr.trans (report_eq_visits ..), ht⟩

lemma generate_of_dirs {s : Schema} {c : Config} {t u : FileTree}
    (h : t.makeAllDirs (if c.mode = .write then s.outputDirs c else []) = (.ok (), u)) :
    generate s c t =
      (.ok (syncAll s.tables c s.artifacts u).1, (syncAll s.tables c s.artifacts u).2) := by
  simp only [generate, h]

/-- **A run loses no file exactly when all that it makes at one place is the same text.** -/
theorem generate_nothingLost_iff {s : Schema} {c : Config} {t t' : FileTree} {r : Report}
    (hmode : c.mode = .write) (h : generate s c t = (.ok r, t')) :
    ∃ vs, vs = visits s.tables c s.artifacts (t.makeAllDirs (s.outputDirs c)).2 ∧
      r = vs.map (Visit.outcome s.tables c) ∧
      (NothingLost s.tables c t' vs ↔ Agree s.tables c t' vs) := by
  obtain ⟨u, hu, hr, ht⟩ := generate_eq_ok h
  rw [if_pos hmode] at hu
  refine ⟨_, rfl, ?_, ?_⟩
  · rw [hr, hu]
  · rw [ht, hu]
    exact nothingLost_iff_agree hmode _ u

/-! ### A lost file -/

/-- Two queries whose names differ in case alone, and so share a file. -/
def twins : Schema where
  queries :=
    [{ name := "drop_user", shape := .exec, sql := "DELETE FROM users" },
      { name := "DropUser", shape := .exec, sql := "TRUNCATE users" }]

/-- The tree in which the files of `twins` are made. -/
def twinsTree : FileTree := { entries := [(["out", "queries"], .dir), (["out"], .dir)] }

lemma generate_twins :
    generate twins { output := "out" } {} =
      (.ok (syncAll [] { output := "out" } twins.artifacts twinsTree).1,
        (syncAll [] { output := "out" } twins.artifacts twinsTree).2) :=
  generate_of_dirs (by decide)

/-- The file of the first of the `twins` holds in the end what was made for the second. -/
theorem generate_twins_lost :
    ∃ r t', generate twins { output := "out" } {} = (.ok r, t') ∧
      ¬ NothingLost twins.tables { output := "out" } t'
        (visits twins.tables { output := "out" } twins.artifacts
          ((({} : FileTree).makeAllDirs (twins.outputDirs { output := "out" })).2)) := by
  refine ⟨_, _, generate_twins, fun h => ?_⟩
  have hu : (({} : FileTree).makeAllDirs (twins.outputDirs { output := "out" })).2 = twinsTree := by
    decide
  rw [hu] at h
  obtain ⟨s, hs, hr⟩ := h
    ⟨.query { name := "drop_user", shape := .exec, sql := "DELETE FROM users" },
      (Artifact.querier.sync [] { output := "out" } twinsTree).2⟩
    (List.mem_cons_of_mem _ (List.mem_cons_self ..)) ⟨.created, by decide⟩
  have hne : Visit.text? [] { output := "out" }
      ⟨.query { name := "drop_user", shape := .exec, sql := "DELETE FROM users" },
        (Artifact.querier.sync [] { output := "out" } twinsTree).2⟩ ≠
      ((syncAll [] { output := "out" } twins.artifacts twinsTree).2.readText
        "out/queries/drop_user.go").toOption := by
    decide +kernel
  have hp : Artifact.path { output := "out" }
      (.query { name := "drop_user", shape := .exec, sql := "DELETE FROM users" }) =
        "out/queries/drop_user.go" := by
    decide
  simp only [Visit.path, hp] at hr
  exact hne (by rw [hr]; exact hs)

theorem generate_twins_nothingLost_iff :
    ∃ r t', generate twins { output := "out" } {} = (.ok r, t') ∧
      ∃ vs, vs = visits twins.tables { output := "out" } twins.artifacts
          (({} : FileTree).makeAllDirs (twins.outputDirs { output := "out" })).2 ∧
        r = vs.map (Visit.outcome twins.tables { output := "out" }) ∧
        (NothingLost twins.tables { output := "out" } t' vs ↔
          Agree twins.tables { output := "out" } t' vs) :=
  ⟨_, _, generate_twins, generate_nothingLost_iff rfl generate_twins⟩

end SchemaGo
