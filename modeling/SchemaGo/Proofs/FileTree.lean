import Mathlib
import SchemaGo.FileTree

/-!
Paths lead through directories only, so writing a file leaves every path leading where it led.
-/

namespace SchemaGo.FileTree

variable {t u : FileTree} {p q : Place} {s : String}

@[simp] lemma current_put (t : FileTree) (p : Place) (e : Entry) :
    (t.put p e).current = t.current := rfl

@[simp] lemma start_put (t : FileTree) (p : Place) (e : Entry) (path : String) :
    (t.put p e).start path = t.start path := rfl

lemma ne_nil_of_not_dir (h : t.get? p ≠ some .dir) : p ≠ [] := by
  rintro rfl
  exact h rfl

/-! ### Walking -/

@[simp] lemma walk_nil (t : FileTree) (p : Place) : t.walk p [] = .ok p := rfl

@[simp] lemma walk_cons (t : FileTree) (p : Place) (x : String) (xs : List String) :
    t.walk p (x :: xs) = (t.step p x).bind fun q => t.walk q xs := rfl

lemma walk_append (t : FileTree) (p : Place) (xs ys : List String) :
    t.walk p (xs ++ ys) = (t.walk p xs).bind fun q => t.walk q ys := by
  simp only [walk, List.foldlM_append]
  rfl

lemma step_eq_ok {x : String} (h : t.step p x = .ok q) :
    t.get? p = some .dir ∧
      q = if Path.isIdle x then p else if x = ".." then p.dropLast else p ++ [x] := by
  unfold step at h
  split at h
  · next hp => exact ⟨hp, (Except.ok.inj h).symm⟩
  · simp at h
  · simp at h

lemma step_of_dir (h : t.get? p = some .dir) (x : String) :
    t.step p x =
      .ok (if Path.isIdle x then p else if x = ".." then p.dropLast else p ++ [x]) := by
  simp [step, h]

/-- Where a step leads if it is made from a directory. -/
def nextPlace (p : Place) (x : String) : Place :=
  if Path.isIdle x then p else if x = ".." then p.dropLast else p ++ [x]

/-- Where a path leads if all directories on its way are there. -/
def target (t : FileTree) (path : String) : Place :=
  (Path.steps path).foldl nextPlace (t.start path)

lemma walk_eq_foldl {xs : List String} (h : t.walk p xs = .ok q) : q = xs.foldl nextPlace p := by
  induction xs generalizing p with
  | nil => exact (Except.ok.inj h).symm
  | cons x xs ih =>
    rw [walk_cons] at h
    rcases hx : t.step p x with e | r
    · simp [hx, Except.bind] at h
    · obtain ⟨-, rfl⟩ := step_eq_ok hx
      rw [hx] at h
      exact ih h

/-- The two trees have the same directories. -/
def SameDirs (t u : FileTree) : Prop :=
  t.current = u.current ∧ ∀ p, t.get? p = some .dir ↔ u.get? p = some .dir

lemma SameDirs.symm (h : SameDirs t u) : SameDirs u t := ⟨h.1.symm, fun p => (h.2 p).symm⟩

lemma SameDirs.refl (t : FileTree) : SameDirs t t := ⟨rfl, fun _ => Iff.rfl⟩

lemma SameDirs.trans {v : FileTree} (h : SameDirs t u) (h' : SameDirs u v) : SameDirs t v :=
  ⟨h.1.trans h'.1, fun p => (h.2 p).trans (h'.2 p)⟩

/-- The directories of `t` are directories of `u`. -/
def DirsWithin (t u : FileTree) : Prop :=
  u.current = t.current ∧ ∀ p, t.get? p = some .dir → u.get? p = some .dir

lemma SameDirs.within (h : SameDirs t u) : DirsWithin t u :=
  ⟨h.1.symm, fun p => (h.2 p).mp⟩

namespace DirsWithin

lemma start (h : DirsWithin t u) (path : String) : u.start path = t.start path := by
  rw [FileTree.start, FileTree.start, h.1]

lemma step_eq_ok {x : String} (h : DirsWithin t u) (hs : t.step p x = .ok q) :
    u.step p x = .ok q := by
  obtain ⟨hp, rfl⟩ := FileTree.step_eq_ok hs
  exact step_of_dir (h.2 p hp) x

/-- Where a path leads, it leads in a tree with more directories. -/
lemma walk_eq_ok {xs : List String} (h : DirsWithin t u) (hs : t.walk p xs = .ok q) :
    u.walk p xs = .ok q := by
  induction xs generalizing p with
  | nil => exact hs
  | cons x xs ih =>
    rw [walk_cons] at hs ⊢
    rcases hx : t.step p x with e | r
    · simp [hx, Except.bind] at hs
    · rw [hx] at hs
      rw [h.step_eq_ok hx]
      exact ih hs

lemma locate_eq_ok {path : String} (h : DirsWithin t u) (hs : t.locate path = .ok q) :
    u.locate path = .ok q := by
  unfold locate at hs ⊢
  split at hs
  · simp at hs
  · next hp =>
    rw [if_neg hp, h.start]
    exact h.walk_eq_ok hs

end DirsWithin

lemma SameDirs.locate_eq_ok {path : String} (h : SameDirs t u) (hs : t.locate path = .ok q) :
    u.locate path = .ok q :=
  h.within.locate_eq_ok hs

lemma sameDirs_put (h : t.get? p ≠ some .dir) (s : String) : SameDirs t (t.put p (.text s)) := by
  refine ⟨rfl, fun q => ?_⟩
  by_cases hq : q = p
  · subst hq
    rw [get?_put_self t _ (ne_nil_of_not_dir h)]
    simp [h]
  · rw [get?_put_of_ne t _ hq]

/-! ### Reading and writing -/

lemma readText_eq_ok {path : String} :
    t.readText path = .ok s ↔ ∃ p, t.locate path = .ok p ∧ t.get? p = some (.text s) := by
  unfold readText
  rcases h : t.locate path with e | p
  · simp
  · rcases hg : t.get? p with _ | _ | _ | _ <;> simp [hg]

lemma writeText_eq_ok {path : String} (h : t.writeText path s = .ok u) :
    ∃ p, t.locate path = .ok p ∧ t.get? p ≠ some .dir ∧ u = t.put p (.text s) := by
  unfold writeText at h
  split at h
  · simp at h
  · next p hp =>
    split at h
    · simp at h
    · next hd => exact ⟨p, hp, hd, (Except.ok.inj h).symm⟩

lemma writeText_sameDirs {path : String} (h : t.writeText path s = .ok u) : SameDirs t u := by
  obtain ⟨p, -, hd, rfl⟩ := writeText_eq_ok h
  exact sameDirs_put hd s

lemma readText_writeText_self {path : String} (h : t.writeText path s = .ok u) :
    u.readText path = .ok s := by
  obtain ⟨p, hp, hd, rfl⟩ := writeText_eq_ok h
  exact readText_eq_ok.mpr ⟨p, (sameDirs_put hd s).locate_eq_ok hp,
    get?_put_self t _ (ne_nil_of_not_dir hd)⟩

/-- A file keeps its text when another file is written. -/
lemma readText_writeText_of_ne {path path' s' : String} (h : t.writeText path s = .ok u)
    (hr : t.readText path' = .ok s') (hne : t.locate path' ≠ t.locate path) :
    u.readText path' = .ok s' := by
  obtain ⟨p, hp, hd, rfl⟩ := writeText_eq_ok h
  obtain ⟨q, hq, hg⟩ := readText_eq_ok.mp hr
  have hqp : q ≠ p := by
    rintro rfl
    exact hne (hq.trans hp.symm)
  exact readText_eq_ok.mpr ⟨q, (sameDirs_put hd s).locate_eq_ok hq, by
    rw [get?_put_of_ne t _ hqp, hg]⟩

/-- Two paths that lead to one place read the same. -/
lemma readText_congr {path path' : String} (h : t.locate path = t.locate path') :
    t.readText path = t.readText path' := by
  unfold readText
  rw [h]

end SchemaGo.FileTree
