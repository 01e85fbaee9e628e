import Mathlib
import SchemaGo.Run.Generate
import SchemaGo.Proofs.FileTree

/-!
A run as a list of visits: each file of the schema, with the tree as it is when its turn comes.
-/

namespace SchemaGo

/-- A file of the schema, and the tree before it is brought up to date. -/
structure Visit where
  artifact : Artifact
  tree : FileTree

/-- The visits of a run over `as` that begins with the tree `t`. -/
def visits (tables : List Table) (c : Config) : List Artifact → FileTree → List Visit
  | [], _ => []
  | a :: as, t => ⟨a, t⟩ :: visits tables c as (a.sync tables c t).2

section

variable (tables : List Table) (c : Config)

namespace Visit

def path (v : Visit) : String := v.artifact.path c

def result (v : Visit) : Except Failure Status := (v.artifact.sync tables c v.tree).1

/-- The tree behind the visit. -/
def next (v : Visit) : FileTree := (v.artifact.sync tables c v.tree).2

/-- The text that is made for the file, where one is made. -/
def text? (v : Visit) : Option String :=
  match v.tree.existing (v.path c) with
  | .ok old => (v.artifact.content tables c old).toOption
  | .error _ => none

def outcome (v : Visit) : Outcome := ⟨v.artifact.label, v.path c, v.result tables c⟩

/-- The file has been made, or found up to date. -/
def Done (v : Visit) : Prop := ∃ s, v.result tables c = .ok s

end Visit

lemma map_artifact_visits (as : List Artifact) (t : FileTree) :
    (visits tables c as t).map Visit.artifact = as := by
  induction as generalizing t with
  | nil => rfl
  | cons a as ih => simp [visits, ih]

lemma report_eq_visits (as : List Artifact) (t : FileTree) :
    (syncAll tables c as t).1 = (visits tables c as t).map (Visit.outcome tables c) := by
  induction as generalizing t with
  | nil => rfl
  | cons a as ih =>
    have h := ih (a.sync tables c t).2
    simp only [syncAll, visits, List.map_cons]
    rw [h]
    rfl

lemma syncAll_cons_eq (a : Artifact) (as : List Artifact) (t : FileTree) :
    syncAll tables c (a :: as) t =
      (⟨a.label, a.path c, (a.sync tables c t).1⟩ :: (syncAll tables c as (a.sync tables c t).2).1,
        (syncAll tables c as (a.sync tables c t).2).2) := rfl

lemma syncAll_cons (a : Artifact) (as : List Artifact) (t : FileTree) :
    (syncAll tables c (a :: as) t).2 = (syncAll tables c as (a.sync tables c t).2).2 := rfl

end

/-! ### One visit -/

namespace FileTree

/-- What bringing a file up to date comes to. -/
inductive Synced (t : FileTree) (path : String) (mode : Mode)
    (render : Option String → Except Failure String) : Except Failure Status × FileTree → Prop
  | unreadable (f : Failure) (read : t.existing path = .error f) :
      Synced t path mode render (.error f, t)
  | refused (old : Option String) (f : Failure) (read : t.existing path = .ok old)
      (rendered : render old = .error f) : Synced t path mode render (.error f, t)
  | unchanged (s : String) (read : t.existing path = .ok (some s))
      (rendered : render (some s) = .ok s) : Synced t path mode render (.ok .unchanged, t)
  | stale (old : Option String) (new : String) (read : t.existing path = .ok old)
      (rendered : render old = .ok new) (changed : old ≠ some new) (check : mode = .check) :
      Synced t path mode render (.ok .stale, t)
  | stored (old : Option String) (new : String) (u : FileTree) (read : t.existing path = .ok old)
      (rendered : render old = .ok new) (changed : old ≠ some new) (write : mode = .write)
      (wrote : t.writeText path new = .ok u) :
      Synced t path mode render (.ok (if old.isSome then .updated else .created), u)
  | failed (old : Option String) (new : String) (e : IoError) (read : t.existing path = .ok old)
      (rendered : render old = .ok new) (changed : old ≠ some new) (write : mode = .write)
      (wrote : t.writeText path new = .error e) :
      Synced t path mode render (.error (.io (Path.parent path) e), t)

lemma synced (t : FileTree) (path : String) (mode : Mode)
    (render : Option String → Except Failure String) :
    Synced t path mode render (t.sync path mode render) := by
  unfold sync
  rcases he : t.existing path with f | old
  · exact .unreadable f he
  rcases hr : render old with f | new
  · simp only [hr]
    exact .refused old f he hr
  simp only [hr]
  split
  · next ho =>
    subst ho
    exact .unchanged new he hr
  · next ho =>
    cases mode with
    | check => exact .stale old new he hr ho rfl
    | write =>
      unfold store
      rcases hw : t.writeText path new with e | u
      · exact .failed old new e he hr ho rfl hw
      · exact .stored old new u he hr ho rfl hw

lemma existing_eq_some {t : FileTree} {path s : String} :
    t.existing path = .ok (some s) ↔ t.readText path = .ok s := by
  unfold existing
  rcases t.readText path with e | s'
  · cases e <;> simp
  · simp

end FileTree

lemma Artifact.sync_cases (tables : List Table) (c : Config) (a : Artifact) (t : FileTree) :
    (∃ f, a.blocked? c = some f ∧ a.sync tables c t = (.error f, t)) ∨
      a.blocked? c = none ∧
        a.sync tables c t = t.sync (a.path c) c.mode (a.content tables c) := by
  unfold sync
  rcases h : a.blocked? c with _ | f
  · exact .inr ⟨rfl, rfl⟩
  · exact .inl ⟨f, rfl, rfl⟩

namespace Visit

variable {tables : List Table} {c : Config} {v : Visit}

lemma text?_eq_some {old : Option String} {new : String}
    (read : v.tree.existing (v.path c) = .ok old)
    (rendered : v.artifact.content tables c old = .ok new) : v.text? tables c = some new := by
  unfold text?
  rw [read]
  simp only [rendered, Except.toOption]

/-- A visit brings its file up to date, or is kept from it and leaves the tree. -/
lemma synced (tables : List Table) (c : Config) (v : Visit) :
    (∃ f, v.result tables c = .error f ∧ v.next tables c = v.tree) ∨
      v.tree.Synced (v.path c) c.mode (v.artifact.content tables c)
        (v.result tables c, v.next tables c) := by
  unfold result next
  rcases v.artifact.sync_cases tables c v.tree with ⟨f, -, hf⟩ | ⟨-, hf⟩
  · exact .inl ⟨f, by rw [hf], by rw [hf]⟩
  · rw [hf]
    exact .inr (FileTree.synced v.tree (v.path c) c.mode (v.artifact.content tables c))

/-- A visit that succeeds leaves in the file the text that has been made for it. -/
lemma Done.readText (hmode : c.mode = .write) (h : v.Done tables c) :
    ∃ s, v.text? tables c = some s ∧ (v.next tables c).readText (v.path c) = .ok s := by
  obtain ⟨st, hs⟩ := h
  rcases v.synced tables c with ⟨f, hf, -⟩ | hsync
  · simp [hf] at hs
  generalize v.result tables c = r, v.next tables c = u at hs hsync ⊢
  cases hsync with
  | unreadable f read => simp at hs
  | refused old f read rendered => simp at hs
  | unchanged s read rendered =>
    exact ⟨s, text?_eq_some read rendered, FileTree.existing_eq_some.mp read⟩
  | stale old new read rendered changed check => simp [hmode] at check
  | stored old new u read rendered changed write wrote =>
    exact ⟨new, text?_eq_some read rendered, FileTree.readText_writeText_self wrote⟩
  | failed old new e read rendered changed write wrote => simp at hs

/-- A visit writes its own file or nothing. -/
lemma next_cases (tables : List Table) (c : Config) (v : Visit) :
    v.next tables c = v.tree ∨
      v.Done tables c ∧ ∃ s, v.tree.writeText (v.path c) s = .ok (v.next tables c) := by
  unfold Done
  rcases v.synced tables c with ⟨f, -, hf⟩ | hsync
  · exact .inl hf
  generalize v.result tables c = r, v.next tables c = u at hsync ⊢
  cases hsync with
  | stored old new u read rendered changed write wrote => exact .inr ⟨⟨_, rfl⟩, new, wrote⟩
  | _ => exact .inl rfl

lemma sameDirs_next (tables : List Table) (c : Config) (v : Visit) :
    v.tree.SameDirs (v.next tables c) := by
  rcases v.next_cases tables c with h | ⟨-, s, h⟩
  · rw [h]
    exact .refl _
  · exact FileTree.writeText_sameDirs h

end Visit

end SchemaGo
