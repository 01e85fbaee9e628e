import Mathlib
import SchemaGo.Proofs.FileTree
import SchemaGo.Run.Generate

/-!
Making directories. A directory that has been made is found again, and nothing but directories
comes into the tree.
-/

namespace SchemaGo

namespace FileTree

variable {t u v : FileTree} {p q : Place} {s : String} {up : List String}

/-! ### Trees that grow -/

/-- The tree `u` is `t` with more directories. -/
structure Grows (t u : FileTree) : Prop where
  current : u.current = t.current
  kept : ∀ p e, t.get? p = some e → u.get? p = some e
  added : ∀ p e, u.get? p = some e → e = .dir ∨ t.get? p = some e

namespace Grows

lemma refl (t : FileTree) : Grows t t := ⟨rfl, fun _ _ h => h, fun _ _ h => .inr h⟩

lemma trans (h : Grows t u) (h' : Grows u v) : Grows t v where
  current := h'.current.trans h.current
  kept p e he := h'.kept p e (h.kept p e he)
  added p e he := by
    rcases h'.added p e he with rfl | he
    · exact .inl rfl
    · exact h.added p e he

lemma put (h : t.get? p = none) : Grows t (t.put p .dir) := by
  have hp : p ≠ [] := ne_nil_of_not_dir (t := t) (by simp [h])
  refine ⟨rfl, fun q e hq => ?_, fun q e hq => ?_⟩
  · have hne : q ≠ p := by
      rintro rfl
      rw [h] at hq
      exact absurd hq (by simp)
    rw [get?_put_of_ne t _ hne, hq]
  · by_cases hqp : q = p
    · subst hqp
      rw [get?_put_self t _ hp] at hq
      exact .inl (by simpa using hq.symm)
    · rw [get?_put_of_ne t _ hqp] at hq
      exact .inr hq

lemma within (h : Grows t u) : DirsWithin t u := ⟨h.current, fun p hp => h.kept p .dir hp⟩

end Grows

lemma isDir_iff {steps : List String} :
    t.isDir p steps = true ↔ ∃ q, t.walk p steps = .ok q ∧ t.get? q = some .dir := by
  unfold isDir
  rcases t.walk p steps with e | q
  · simp
  · simp

lemma DirsWithin.isDir {steps : List String} (h : DirsWithin t u) (hd : t.isDir p steps = true) :
    u.isDir p steps = true := by
  obtain ⟨q, hq, hg⟩ := isDir_iff.mp hd
  exact isDir_iff.mpr ⟨q, h.walk_eq_ok hq, h.2 q hg⟩

/-- A walk that ends in a dot ends in a directory. -/
lemma walk_dot {xs : List String} :
    t.walk p (xs ++ ["."]) = .ok q ↔ t.walk p xs = .ok q ∧ t.get? q = some .dir := by
  rw [walk_append]
  rcases t.walk p xs with e | r
  · simp [Except.bind]
  · have hidle : Path.isIdle "." = true := by decide +kernel
    constructor
    · intro h
      rcases hs : t.step r "." with e | r'
      · simp [Except.bind, hs] at h
      · obtain rfl : r' = q := by simpa [Except.bind, hs] using h
        obtain ⟨hr, hq⟩ := step_eq_ok hs
        rw [if_pos hidle] at hq
        exact ⟨by rw [hq], hq ▸ hr⟩
    · rintro ⟨hr, hq⟩
      obtain rfl := Except.ok.inj hr
      rw [Except.bind, walk_cons, step_of_dir hq, if_pos hidle]
      rfl

lemma dir_of_walk {xs : List String} (h : t.walk p xs = .ok q) (hq : t.get? q = some .dir) :
    t.get? p = some .dir := by
  cases xs with
  | nil =>
    obtain rfl := Except.ok.inj h
    exact hq
  | cons x xs =>
    rw [walk_cons] at h
    rcases hx : t.step p x with e | r
    · simp [hx, Except.bind] at h
    · exact (step_eq_ok hx).1

/-- Steps that stay where they are do not change to which directory a walk leads. -/
lemma walk_filter_idle {xs : List String} (hq : t.get? q = some .dir) :
    t.walk p (xs.filter (!Path.isIdle ·)) = .ok q ↔ t.walk p xs = .ok q := by
  induction xs generalizing p with
  | nil => rfl
  | cons x xs ih =>
    by_cases hx : Path.isIdle x = true
    · rw [List.filter_cons_of_neg (by simp [hx]), ih, walk_cons]
      constructor
      · intro h
        rw [step_of_dir (dir_of_walk h hq), if_pos hx]
        exact h
      · intro h
        rcases hstep : t.step p x with e | r
        · simp [hstep, Except.bind] at h
        · obtain ⟨-, rfl⟩ := step_eq_ok hstep
          rwa [hstep, if_pos hx] at h
    · rw [List.filter_cons_of_pos (by simpa using hx), walk_cons, walk_cons]
      rcases t.step p x with e | r
      · rfl
      · exact ih

/-! ### One directory -/

lemma makeDir_eq_ok (h : t.makeDir p (s :: up) = .ok u) :
    ∃ q, t.get? q = none ∧ u = t.put q .dir ∧ u.walk p (s :: up).reverse = .ok q := by
  unfold makeDir at h
  rcases hw : t.walk p (up.reverse ++ ["."]) with e | q
  · simp [hw] at h
  simp only [hw] at h
  split at h
  · simp at h
  next hc =>
  obtain rfl := Except.ok.inj h
  simp only [Bool.or_eq_true, beq_iff_eq, not_or, Bool.not_eq_true, Option.isSome_eq_false_iff,
    Option.isNone_iff_eq_none] at hc
  obtain ⟨⟨hidle, hup⟩, hnone⟩ := hc
  obtain ⟨hq, hdir⟩ := walk_dot.mp hw
  have hg := Grows.put hnone
  refine ⟨q ++ [s], hnone, rfl, ?_⟩
  rw [List.reverse_cons, walk_append, hg.within.walk_eq_ok hq, Except.bind, walk_cons,
    step_of_dir (hg.within.2 q hdir), hidle]
  simp [hup, Except.bind]

lemma makeDirIfMissing_spec {r : Except IoError Unit}
    (h : t.makeDirIfMissing p (s :: up) = (r, u)) :
    Grows t u ∧ (r = .ok () → u.isDir p (s :: up).reverse = true) := by
  unfold makeDirIfMissing at h
  rcases hm : t.makeDir p (s :: up) with e | v
  · simp only [hm] at h
    split at h
    · next hd =>
      obtain ⟨rfl, rfl⟩ := Prod.mk.inj h
      exact ⟨.refl t, fun _ => hd⟩
    · obtain ⟨rfl, rfl⟩ := Prod.mk.inj h
      exact ⟨.refl t, by simp⟩
  · simp only [hm, Prod.mk.injEq] at h
    obtain ⟨rfl, rfl⟩ := h
    obtain ⟨q, hnone, rfl, hq⟩ := makeDir_eq_ok hm
    have hne : q ≠ [] := ne_nil_of_not_dir (t := t) (by simp [hnone])
    exact ⟨.put hnone, fun _ => isDir_iff.mpr ⟨q, hq, get?_put_self t _ hne⟩⟩

/-- A directory that is there is not made. -/
lemma makeDirIfMissing_of_isDir (h : t.isDir p (s :: up).reverse = true) :
    t.makeDirIfMissing p (s :: up) = (.ok (), t) := by
  obtain ⟨r, hr, hdir⟩ := isDir_iff.mp h
  rw [List.reverse_cons, walk_append] at hr
  have hm : ∃ e, t.makeDir p (s :: up) = .error e := by
    rcases hw : t.walk p (up.reverse ++ ["."]) with e | q
    · exact ⟨e, by rw [makeDir, hw]⟩
    · obtain ⟨hq, hqd⟩ := walk_dot.mp hw
      rw [hq, Except.bind, walk_cons, step_of_dir hqd] at hr
      refine ⟨.alreadyExists, ?_⟩
      rw [makeDir, hw]
      simp only
      rw [if_pos]
      simp only [Bool.or_eq_true, beq_iff_eq]
      by_cases hidle : Path.isIdle s = true
      · exact .inl (.inl hidle)
      by_cases hup : s = ".."
      · exact .inl (.inr hup)
      · obtain rfl : q ++ [s] = r := by simpa [hidle, hup, Except.bind] using hr
        exact .inr (by rw [hdir]; rfl)
  obtain ⟨e, hm⟩ := hm
  rw [makeDirIfMissing, hm]
  simp only
  rw [if_pos h]

/-! ### Directories above one another -/

lemma makeDirsUp_spec {r : Except IoError Unit} (h : t.makeDirsUp p up = (r, u)) :
    Grows t u ∧ (r = .ok () → up ≠ [] → u.isDir p up.reverse = true) := by
  induction up generalizing r t u with
  | nil =>
    obtain ⟨rfl, rfl⟩ := Prod.mk.inj h
    exact ⟨.refl t, fun _ hne => absurd rfl hne⟩
  | cons s up ih =>
    unfold makeDirsUp at h
    rcases hm : t.makeDirIfMissing p (s :: up) with ⟨r₁, u₁⟩
    obtain ⟨hg₁, hd₁⟩ := makeDirIfMissing_spec hm
    rw [hm] at h
    split at h
    · next v hv =>
      obtain ⟨rfl, rfl⟩ := Prod.mk.inj hv
      rcases hu : u₁.makeDirsUp p up with ⟨_ | ⟨⟩, u₂⟩
      · simp only [hu] at h
        obtain ⟨rfl, rfl⟩ := Prod.mk.inj h
        exact ⟨hg₁.trans (ih hu).1, by simp⟩
      · simp only [hu] at h
        obtain ⟨hg₂, hd₂⟩ := makeDirIfMissing_spec h
        exact ⟨hg₁.trans ((ih hu).1.trans hg₂), fun hr _ => hd₂ hr⟩
    · obtain ⟨rfl, rfl⟩ := Prod.mk.inj h
      exact ⟨hg₁, fun hr _ => hd₁ hr⟩

/-- The directory of a path. -/
def hasDir (t : FileTree) (path : String) : Bool := t.isDir (t.start path) (upwards path).reverse

lemma DirsWithin.hasDir {path : String} (h : DirsWithin t u) (hd : t.hasDir path = true) :
    u.hasDir path = true := by
  rw [FileTree.hasDir, h.start]
  exact h.isDir hd

lemma makeDirs_spec {path : String} {r : Except IoError Unit} (h : t.makeDirs path = (r, u)) :
    Grows t u ∧ (r = .ok () → upwards path ≠ [] → u.hasDir path = true) := by
  have hstart : ∀ {v : FileTree}, Grows t v → v.start path = t.start path :=
    fun hg => hg.within.start path
  unfold makeDirs at h
  simp only at h
  split at h
  · next hc =>
    simp only [Bool.and_eq_true, Bool.not_eq_true'] at hc
    split at h
    · rcases hu : t.makeDirsUp (t.start path) (upwards path).tail with ⟨_ | ⟨⟩, u₁⟩
      · simp only [hu] at h
        obtain ⟨rfl, rfl⟩ := Prod.mk.inj h
        exact ⟨(makeDirsUp_spec hu).1, by simp⟩
      · simp only [hu] at h
        obtain ⟨rfl, rfl⟩ := Prod.mk.inj h
        exact ⟨(makeDirsUp_spec hu).1, by simp⟩
    · obtain ⟨rfl, rfl⟩ := Prod.mk.inj h
      exact ⟨.refl t, by simp⟩
    · next q hq =>
      obtain ⟨hw, hd⟩ := walk_dot.mp hq
      exact absurd (isDir_iff.mpr ⟨q, hw, hd⟩) (by simp [hc.2])
  · obtain ⟨hg, hd⟩ := makeDirsUp_spec h
    refine ⟨hg, fun hr hne => ?_⟩
    rw [hasDir, hstart hg]
    exact hd hr hne

/-- The directory of a path is there if its steps lead to one. -/
lemma hasDir_of_walk {path : String} (h : t.walk (t.start path) (Path.steps path) = .ok q)
    (hq : t.get? q = some .dir) : t.hasDir path = true := by
  rw [hasDir, upwards, List.reverse_reverse]
  exact isDir_iff.mpr ⟨q, (walk_filter_idle hq).mpr h, hq⟩

lemma makeDirs_of_hasDir {path : String} (h : t.hasDir path = true) :
    t.makeDirs path = (.ok (), t) := by
  unfold makeDirs
  simp only
  rw [if_neg (by rw [← hasDir, h]; simp)]
  rw [hasDir] at h
  rcases hup : upwards path with _ | ⟨s, up⟩
  · rfl
  · rw [hup] at h
    rw [makeDirsUp, makeDirIfMissing_of_isDir h]

/-! ### Several directories -/

lemma makeAllDirs_spec {ds : List String} (h : t.makeAllDirs ds = (.ok (), u)) :
    Grows t u ∧ ∀ d ∈ ds, upwards d ≠ [] → u.hasDir d = true := by
  induction ds generalizing t with
  | nil =>
    obtain ⟨-, rfl⟩ := Prod.mk.inj h
    exact ⟨.refl t, by simp⟩
  | cons d ds ih =>
    unfold makeAllDirs at h
    rcases hd : t.makeDirs d with ⟨e | ⟨⟩, v⟩
    · simp [hd] at h
    · simp only [hd] at h
      obtain ⟨hg, hm⟩ := makeDirs_spec hd
      obtain ⟨hg', hm'⟩ := ih h
      refine ⟨hg.trans hg', fun x hx hne => ?_⟩
      rcases List.mem_cons.mp hx with rfl | hx
      · exact hg'.within.hasDir (hm rfl hne)
      · exact hm' x hx hne

lemma makeAllDirs_of_hasDir {ds : List String} (h : ∀ d ∈ ds, t.hasDir d = true) :
    t.makeAllDirs ds = (.ok (), t) := by
  induction ds with
  | nil => rfl
  | cons d ds ih =>
    rw [makeAllDirs, makeDirs_of_hasDir (h d (by simp))]
    exact ih fun x hx => h x (by simp [hx])

end FileTree

end SchemaGo
