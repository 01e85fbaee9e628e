import Mathlib
import SchemaGo.Proofs.Run.SecondRun

/-!
Checking. A check changes nothing, and tells of each file what a run would make of it; where it
finds every file up to date, so does a run.
-/

namespace SchemaGo

open FileTree

/-! ### One file -/

namespace FileTree

variable {t : FileTree} {path : String} {render : Option String → Except Failure String}

/-- What comes of writing the text `new` to a file whose old text is known. -/
inductive Wrote (t : FileTree) (path : String) (old : Option String) (new : String) :
    Except Failure Status × FileTree → Prop
  | stored (u : FileTree) (wrote : t.writeText path new = .ok u) :
      Wrote t path old new (.ok (if old.isSome then .updated else .created), u)
  | failed (e : IoError) (wrote : t.writeText path new = .error e) :
      Wrote t path old new (.error (.io (Path.parent path) e), t)

/-- A check of a file leaves the tree, and tells what writing comes to: whether the text is
rendered and goes on to be written, whether it stays, and which failure comes before that. -/
structure Foretold (t : FileTree) (path : String)
    (render : Option String → Except Failure String) : Prop where
  pure : (t.sync path .check render).2 = t
  stale : (t.sync path .check render).1 = .ok .stale ↔
    ∃ old new, t.existing path = .ok old ∧ render old = .ok new ∧
      t.Wrote path old new (t.sync path .write render)
  unchanged : (t.sync path .check render).1 = .ok .unchanged ↔
    (t.sync path .write render).1 = .ok .unchanged
  error : ∀ f, (t.sync path .check render).1 = .error f ↔
    (t.existing path = .error f ∨ ∃ old, t.existing path = .ok old ∧ render old = .error f) ∧
      t.sync path .write render = (.error f, t)

lemma wrote_store (t : FileTree) (path : String) (old : Option String) (new : String) :
    t.Wrote path old new (t.store path old new) := by
  unfold store
  rcases h : t.writeText path new with e | u
  · exact .failed e h
  · exact .stored u h

lemma Wrote.ne_unchanged {old : Option String} {new : String}
    {r : Except Failure Status × FileTree} (h : t.Wrote path old new r) :
    r.1 ≠ .ok .unchanged := by
  cases h with
  | stored u wrote => cases old <;> simp
  | failed e wrote => simp

lemma foretold (t : FileTree) (path : String) (render : Option String → Except Failure String) :
    t.Foretold path render := by
  rcases he : t.existing path with f | old
  · have h : ∀ mode, t.sync path mode render = (.error f, t) := fun mode => by simp [sync, he]
    constructor <;> simp [h, he]
  rcases hr : render old with f | new
  · have h : ∀ mode, t.sync path mode render = (.error f, t) := fun mode => by simp [sync, he, hr]
    constructor <;> simp [h, he, hr]
  by_cases ho : old = some new
  · subst ho
    have h : ∀ mode, t.sync path mode render = (.ok .unchanged, t) :=
      fun mode => by simp [sync, he, hr]
    have hnot : ¬ t.Wrote path (some new) new (.ok .unchanged, t) := fun hw => hw.ne_unchanged rfl
    constructor <;> simp [h, he, hr, hnot]
  · have hc : t.sync path .check render = (.ok .stale, t) := by simp [sync, he, hr, ho]
    have hw : t.sync path .write render = t.store path old new := by simp [sync, he, hr, ho]
    have hstore := wrote_store t path old new
    constructor <;> simp [hc, hw, he, hr, hstore, hstore.ne_unchanged]

end FileTree

/-! ### A whole run -/

variable {s : Schema} {c : Config} {t : FileTree} {as : List Artifact} {tables : List Table}

lemma Artifact.sync_check (hmode : c.mode = .check) (a : Artifact) :
    (a.sync tables c t).2 = t := by
  rcases a.sync_cases tables c t with ⟨f, -, h⟩ | ⟨-, h⟩
  · rw [h]
  · rw [h, hmode]
    exact (t.foretold _ _).pure

lemma syncAll_check (hmode : c.mode = .check) (as : List Artifact) (t : FileTree) :
    syncAll tables c as t = (as.map fun a => ⟨a.label, a.path c, (a.sync tables c t).1⟩, t) := by
  induction as with
  | nil => rfl
  | cons a as ih =>
    rw [syncAll_cons_eq, a.sync_check hmode, ih, List.map_cons]

/-- A check makes no directories. -/
lemma generate_check (s : Schema) (hmode : c.mode = .check) (t : FileTree) :
    generate s c t =
      (.ok (s.artifacts.map fun a => ⟨a.label, a.path c, (a.sync s.tables c t).1⟩), t) := by
  rw [generate_of_dirs (u := t) (by rw [if_neg (by simp [hmode])]; rfl), syncAll_check hmode]

lemma Artifact.settled_of_unchanged {a : Artifact}
    (h : (a.sync tables c t).1 = .ok .unchanged) : a.Settled tables c t := by
  rcases a.sync_cases tables c t with ⟨f, -, hf⟩ | ⟨hb, hf⟩
  · simp [hf] at h
  refine ⟨hb, ?_⟩
  have hsync := synced t (a.path c) c.mode (a.content tables c)
  rw [hf] at h
  generalize t.sync (a.path c) c.mode (a.content tables c) = r at h hsync
  cases hsync with
  | unchanged text read rendered => exact ⟨text, existing_eq_some.mp read, rendered⟩
  | stored old new u read rendered changed write wrote => cases old <;> simp at h
  | unreadable f read => simp at h
  | refused old f read rendered => simp at h
  | stale old new read rendered changed check => simp at h
  | failed old new e read rendered changed write wrote => simp at h

/-- Where a file is, there is its directory. -/
lemma Artifact.Settled.hasDir {a : Artifact} (h : a.Settled tables c t) :
    t.hasDir (a.dir c) = true := by
  obtain ⟨-, text, hr, -⟩ := h
  obtain ⟨q, hq, -⟩ := readText_eq_ok.mp hr
  obtain ⟨p, ⟨hp, hdir⟩, -⟩ := (locate_join a.isName_fileName).mp hq
  exact hasDir_of_walk hp hdir

/-- A run in which every file is up to date makes no directory either. -/
lemma generate_settled (h : ∀ a ∈ s.artifacts, a.Settled s.tables c t) :
    generate s c t = (.ok (s.artifacts.map fun a => ⟨a.label, a.path c, .ok .unchanged⟩), t) := by
  have hmade : t.makeAllDirs (if c.mode = .write then s.outputDirs c else []) = (.ok (), t) := by
    refine makeAllDirs_of_hasDir fun d hd => ?_
    split at hd
    · obtain ⟨a, ha, rfl⟩ := Artifact.mem_outputDirs.mp hd
      exact (h a ha).hasDir
    · simp at hd
  rw [generate_of_dirs hmade, syncAll_settled h]

/-- **A check changes nothing and foretells a run.** It leaves the tree, tells of every file what
writing it would come to, and where it finds all files unchanged, a run finds them unchanged and
leaves the tree too. -/
theorem generate_check_foretells (s : Schema) (c : Config) (t : FileTree) :
    (∀ path render, t.Foretold path render) ∧
      ∃ r, generate s { c with mode := .check } t = (.ok r, t) ∧
        ((∀ o ∈ r, o.status? = some .unchanged) →
          generate s { c with mode := .write } t = (.ok r, t)) := by
  refine ⟨t.foretold, _, generate_check s rfl t, fun h => ?_⟩
  have hunchanged : ∀ a ∈ s.artifacts,
      (a.sync s.tables { c with mode := .check } t).1 = .ok .unchanged := by
    intro a ha
    have ho := h _ (List.mem_map_of_mem ha)
    rcases hr : (a.sync s.tables { c with mode := .check } t).1 with f | st
    · simp [Outcome.status?, hr, Except.toOption] at ho
    · simpa [Outcome.status?, hr, Except.toOption] using ho
  rw [generate_settled fun a ha =>
    Artifact.Settled.setMode (Artifact.settled_of_unchanged (hunchanged a ha)) .write]
  congr 2
  refine List.map_congr_left fun a ha => ?_
  rw [hunchanged a ha]
  cases a <;> rfl

/-- An enum, and a composite without fields. -/
def moods : Schema where
  enums := [{ name := "mood", values := ["happy"] }]
  composites := [{ name := "unit" }]

/-- The tree in which the files of `moods` are up to date. -/
def moodsTree : FileTree where
  entries :=
    [(["out"], .dir), (["out", "models"], .dir),
      (["out", "models", "mood.go"],
        .text ("package models\n\ntype Mood string\n\n" ++
          "const (\n\tMoodHappy Mood = \"happy\"\n)\n")),
      (["out", "models", "unit.go"], .text "package models\n\ntype Unit struct \x7b\n\x7d\n")]

theorem generate_check_foretells_moods :
    ∃ r, generate moods { output := "out", mode := .check } moodsTree = (.ok r, moodsTree) ∧
      r.map (·.path) = ["out/models/mood.go", "out/models/unit.go"] ∧
      (∀ o ∈ r, o.status? = some .unchanged) ∧
      generate moods { output := "out", mode := .write } moodsTree = (.ok r, moodsTree) := by
  obtain ⟨-, r, hr, hwrite⟩ := generate_check_foretells moods { output := "out" } moodsTree
  have hrun := hr
  rw [generate_check moods rfl, Prod.mk.injEq, Except.ok.injEq] at hrun
  have hall : ∀ o ∈ r, o.status? = some .unchanged := by
    rw [← hrun.1]
    decide +kernel
  refine ⟨r, hr, ?_, hall, hwrite hall⟩
  rw [← hrun.1]
  decide

end SchemaGo
