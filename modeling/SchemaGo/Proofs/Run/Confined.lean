import Mathlib
import SchemaGo.Proofs.Run.Overwrite
import SchemaGo.Proofs.Run.Places

/-!
What a run may touch. Whatever the items are called, it writes files of its two directories alone,
and makes no directory but these and those above them.
-/

namespace SchemaGo

open FileTree

/-! ### Directories that are made -/

namespace FileTree

variable {t u : FileTree} {p q : Place} {s path : String} {up : List String}
  {r : Except IoError Unit}

lemma Grows.changed (h : Grows t u) (hq : u.get? q ≠ t.get? q) :
    t.get? q = none ∧ u.get? q = some .dir := by
  rcases ht : t.get? q with _ | e
  · rcases hu : u.get? q with _ | e
    · exact absurd (hu.trans ht.symm) hq
    · rcases h.added q e hu with rfl | he
      · exact ⟨rfl, rfl⟩
      · simp [ht] at he
  · exact absurd ((h.kept q e ht).trans ht.symm) hq

/-- The place of the directory of a path, or of one above it. -/
def OnTheWay (t : FileTree) (path : String) (q : Place) : Prop :=
  ∃ xs, xs <+: Path.steps path ∧ t.walk (t.start path) xs = .ok q

lemma DirsWithin.onTheWay (h : DirsWithin t u) (hq : t.OnTheWay path q) : u.OnTheWay path q := by
  obtain ⟨xs, hxs, hw⟩ := hq
  exact ⟨xs, hxs, h.start path ▸ h.walk_eq_ok hw⟩

lemma makeDirIfMissing_eq_error {e : IoError} (h : t.makeDirIfMissing p up = (.error e, u)) :
    u = t := by
  unfold makeDirIfMissing at h
  rcases hm : t.makeDir p up with e | v
  · simp only [hm] at h
    split at h <;> exact (Prod.mk.inj h).2.symm
  · simp [hm] at h

lemma makeDirIfMissing_changed (h : t.makeDirIfMissing p (s :: up) = (r, u))
    (hq : u.get? q ≠ t.get? q) : u.walk p (s :: up).reverse = .ok q := by
  unfold makeDirIfMissing at h
  rcases hm : t.makeDir p (s :: up) with e | v
  · simp only [hm] at h
    split at h <;> exact absurd (congrArg (·.get? q) (Prod.mk.inj h).2.symm) hq
  · simp only [hm, Prod.mk.injEq] at h
    obtain ⟨-, rfl⟩ := h
    obtain ⟨x, -, rfl, hx⟩ := makeDir_eq_ok hm
    obtain rfl : q = x := by
      by_contra hne
      exact hq (get?_put_of_ne t _ hne)
    exact hx

/-- Of the steps to a directory, the last one first, only those behind some point are made. -/
lemma makeDirsUp_changed (h : t.makeDirsUp p up = (r, u)) (hq : u.get? q ≠ t.get? q) :
    ∃ v, v <:+ up ∧ u.walk p v.reverse = .ok q := by
  induction up generalizing r t u with
  | nil =>
    obtain ⟨-, rfl⟩ := Prod.mk.inj h
    exact absurd rfl hq
  | cons s up ih =>
    have hwhole : ∀ {t₁ : FileTree} {r₁}, t₁.makeDirIfMissing p (s :: up) = (r₁, u) →
        u.get? q ≠ t₁.get? q → ∃ v, v <:+ s :: up ∧ u.walk p v.reverse = .ok q :=
      fun h₁ hq₁ => ⟨_, List.suffix_rfl, makeDirIfMissing_changed h₁ hq₁⟩
    unfold makeDirsUp at h
    rcases hm : t.makeDirIfMissing p (s :: up) with ⟨r₁, u₁⟩
    rw [hm] at h
    split at h
    · next v hv =>
      obtain ⟨rfl, rfl⟩ := Prod.mk.inj hv
      obtain rfl := makeDirIfMissing_eq_error hm
      rcases hu : u₁.makeDirsUp p up with ⟨_ | ⟨⟩, u₂⟩
      · simp only [hu, Prod.mk.injEq] at h
        obtain ⟨-, rfl⟩ := h
        obtain ⟨v, hv, hw⟩ := ih hu hq
        exact ⟨v, hv.trans (List.suffix_cons _ _), hw⟩
      · simp only [hu] at h
        by_cases hq₂ : u₂.get? q = u₁.get? q
        · exact hwhole h (hq₂ ▸ hq)
        · obtain ⟨v, hv, hw⟩ := ih hu hq₂
          exact ⟨v, hv.trans (List.suffix_cons _ _),
            (makeDirIfMissing_spec h).1.within.walk_eq_ok hw⟩
    · obtain ⟨-, rfl⟩ := Prod.mk.inj h
      exact hwhole hm hq

lemma onTheWay_of_suffix (hup : up <:+ upwards path)
    (hw : t.walk (t.start path) up.reverse = .ok q) (hq : t.get? q = some .dir) :
    t.OnTheWay path q := by
  have hprefix : up.reverse <+: (Path.steps path).filter (!Path.isIdle ·) := by
    rw [← List.reverse_suffix, List.reverse_reverse]
    exact hup
  obtain ⟨xs, hxs, hfilter⟩ := List.prefix_filter_iff.mp hprefix
  exact ⟨xs, hxs, (walk_filter_idle hq).mp (hfilter ▸ hw)⟩

lemma makeDirs_changed (h : t.makeDirs path = (r, u)) (hq : u.get? q ≠ t.get? q) :
    u.OnTheWay path q := by
  have hg := (makeDirs_spec h).1
  have hdir := (hg.changed hq).2
  have hup : ∀ {up r₁}, t.makeDirsUp (t.start path) up = (r₁, u) → up <:+ upwards path →
      u.OnTheWay path q := by
    intro up r₁ h₁ hsuffix
    obtain ⟨v, hv, hw⟩ := makeDirsUp_changed h₁ hq
    rw [← hg.within.start path] at hw
    exact onTheWay_of_suffix (hv.trans hsuffix) hw hdir
  unfold makeDirs at h
  simp only at h
  split at h
  · split at h
    · rcases hu : t.makeDirsUp (t.start path) (upwards path).tail with ⟨_ | ⟨⟩, u₁⟩
      · simp only [hu, Prod.mk.injEq] at h
        exact hup (h.2 ▸ hu) (List.tail_suffix _)
      · simp only [hu, Prod.mk.injEq] at h
        exact hup (h.2 ▸ hu) (List.tail_suffix _)
    · exact absurd (congrArg (·.get? q) (Prod.mk.inj h).2.symm) hq
    · exact absurd (congrArg (·.get? q) (Prod.mk.inj h).2.symm) hq
  · exact hup h List.suffix_rfl

lemma makeAllDirs_changed {ds : List String} {r : Except BadDirectory Unit}
    (h : t.makeAllDirs ds = (r, u)) :
    Grows t u ∧ ∀ q, u.get? q ≠ t.get? q → ∃ d ∈ ds, u.OnTheWay d q := by
  induction ds generalizing r t with
  | nil =>
    obtain ⟨-, rfl⟩ := Prod.mk.inj h
    exact ⟨.refl t, fun q hq => absurd rfl hq⟩
  | cons d ds ih =>
    unfold makeAllDirs at h
    rcases hd : t.makeDirs d with ⟨e | ⟨⟩, v⟩
    · simp only [hd, Prod.mk.injEq] at h
      obtain ⟨-, rfl⟩ := h
      exact ⟨(makeDirs_spec hd).1, fun q hq => ⟨d, by simp, makeDirs_changed hd hq⟩⟩
    · simp only [hd] at h
      obtain ⟨hg, hrest⟩ := ih h
      refine ⟨(makeDirs_spec hd).1.trans hg, fun q hq => ?_⟩
      by_cases hv : u.get? q = v.get? q
      · exact ⟨d, by simp, hg.within.onTheWay (makeDirs_changed hd (hv ▸ hq))⟩
      · obtain ⟨x, hx, hway⟩ := hrest q hv
        exact ⟨x, by simp [hx], hway⟩

end FileTree

/-! ### Files that are written -/

/-- No text that an item is called gives a name of a file with a slash, a dot or a NUL. -/
lemma Artifact.fileName_nameChar (a : Artifact) :
    ∀ x ∈ a.fileName.toList, x = '_' ∨ Naming.isNameChar x = true := by
  cases a with
  | model m => exact Naming.snakeCase_nameChar m.name
  | query q => exact Naming.snakeCase_nameChar q.name
  | querier =>
    have h : querierName.toList.all Char.isAlphanum = true := by decide
    exact fun x hx => .inr (Naming.isNameChar_of_isAlphanum (List.all_eq_true.mp h x hx))

/-! ### A whole run -/

/-- What a run from the tree `t` to the tree `t'` has done at a place. -/
inductive Confined (s : Schema) (c : Config) (t t' : FileTree) (p : Place) : Prop
  | kept (same : t'.get? p = t.get? p)
  | madeDir (dir : String) (output : dir ∈ s.outputDirs c) (way : t'.OnTheWay dir p)
      (absent : t.get? p = none) (made : t'.get? p = some .dir)
  | wroteFile (a : Artifact) (item : a ∈ s.artifacts) (above : Place) (text : String)
      (dir : t'.LeadsTo (a.dir c) above) (place : p = above ++ [a.fileName ++ ".go"])
      (wrote : t'.get? p = some (.text text))

lemma FileTree.SameDirs.leadsTo {t u : FileTree} {base : String} {p : Place} (h : t.SameDirs u)
    (hp : t.LeadsTo base p) : u.LeadsTo base p :=
  ⟨h.within.start base ▸ h.within.walk_eq_ok hp.1, h.within.2 p hp.2⟩

section

variable {s : Schema} {c : Config} {t u : FileTree} {p : Place}

lemma FileTree.Grows.confined (hg : Grows t u)
    (hmade : ∀ q, u.get? q ≠ t.get? q → ∃ d ∈ s.outputDirs c, u.OnTheWay d q) (p : Place) :
    Confined s c t u p := by
  by_cases hp : u.get? p = t.get? p
  · exact .kept hp
  · obtain ⟨d, hd, hway⟩ := hmade p hp
    obtain ⟨habsent, hdir⟩ := hg.changed hp
    exact .madeDir d hd hway habsent hdir

lemma Confined.keep {u' : FileTree} (h : Confined s c t u p) (hdirs : u.SameDirs u')
    (hp : u'.get? p = u.get? p) : Confined s c t u' p := by
  cases h with
  | kept same => exact .kept (hp.trans same)
  | madeDir d hd hway habsent hdir =>
    exact .madeDir d hd (hdirs.within.onTheWay hway) habsent (hp.trans hdir)
  | wroteFile a ha above text hdir hplace hwrote =>
    exact .wroteFile a ha above text (hdirs.leadsTo hdir) hplace (hp.trans hwrote)

/-- A file that is written is one step below its directory, and no other place changes. -/
lemma Confined.sync (tables : List Table) {a : Artifact} (ha : a ∈ s.artifacts)
    (h : Confined s c t u p) : Confined s c t (a.sync tables c u).2 p := by
  have hdirs : u.SameDirs (a.sync tables c u).2 := Visit.sameDirs_next tables c ⟨a, u⟩
  rcases Visit.next_cases tables c ⟨a, u⟩ with hsame | ⟨-, new, hw⟩
  · exact h.keep hdirs (congrArg (·.get? p) hsame)
  · change u.writeText (a.path c) new = .ok (a.sync tables c u).2 at hw
    obtain ⟨q, hq, hdir, hput⟩ := writeText_eq_ok hw
    by_cases hpq : p = q
    · subst hpq
      have htext := get?_put_self u (.text new) (ne_nil_of_not_dir hdir)
      obtain ⟨above, habove, hplace⟩ := (locate_join a.isName_fileName).mp hq
      exact .wroteFile a ha above new (hdirs.leadsTo habove) hplace (hput ▸ htext)
    · exact h.keep hdirs (hput ▸ get?_put_of_ne u _ hpq)

lemma Confined.syncAll (tables : List Table) {as : List Artifact} (has : as ⊆ s.artifacts)
    (h : Confined s c t u p) : Confined s c t (syncAll tables c as u).2 p := by
  induction as generalizing u with
  | nil => exact h
  | cons a as ih =>
    obtain ⟨ha, has⟩ := List.cons_subset.mp has
    rw [syncAll_cons]
    exact ih has (h.sync tables ha)

end

/-- **A run stays in its output directories.** At every place it leaves what is there, makes an
output directory or one above it, or writes a file of an item into its directory; and the names of
those files have no slash, no dot and no NUL, whatever the items are called. -/
theorem generate_confined (s : Schema) (c : Config) (t : FileTree) :
    (generate s c t).2.current = t.current ∧ (∀ p, Confined s c t (generate s c t).2 p) ∧
      ∀ a ∈ s.artifacts, ∀ x ∈ a.fileName.toList, x ≠ '/' ∧ x ≠ '.' ∧ x ≠ '\x00' := by
  have hnames : ∀ a ∈ s.artifacts, ∀ x ∈ a.fileName.toList, x ≠ '/' ∧ x ≠ '.' ∧ x ≠ '\x00' := by
    intro a _ x hx
    refine ⟨?_, ?_, ?_⟩ <;> rintro rfl <;>
      exact absurd (a.fileName_nameChar _ hx) (by decide)
  rcases hm : t.makeAllDirs (if c.mode = .write then s.outputDirs c else []) with ⟨r, u⟩
  obtain ⟨hg, hmade⟩ := makeAllDirs_changed hm
  have hdirs : ∀ p, Confined s c t u p := by
    refine hg.confined fun q hq => ?_
    obtain ⟨d, hd, hway⟩ := hmade q hq
    split at hd
    · exact ⟨d, hd, hway⟩
    · simp at hd
  rcases r with b | ⟨⟩
  · have hrun : generate s c t = (.error b, u) := by simp only [generate, hm]
    rw [hrun]
    exact ⟨hg.current, hdirs, hnames⟩
  · rw [generate_of_dirs hm]
    have hsame := sameDirs_syncAll s.tables c s.artifacts u
    exact ⟨hsame.1.symm.trans hg.current, fun p => (hdirs p).syncAll s.tables (List.Subset.refl _),
      hnames⟩

end SchemaGo
