import Mathlib
import SchemaGo.Merge.Source
import SchemaGo.Proofs.Go.Edit

/-!
What a merge leaves alone. The declarations of the old file and of the new one are read side by
side as a list of changes; a merge keeps all of them but the few that the generator owns.
-/

namespace SchemaGo.Merge

open Go

/-! ### Changes -/

/-- What becomes of one declaration. -/
inductive Change
  /-- Kept as it is; only who owns it may be recorded anew. -/
  | kept (d : Decl) (managed : Bool)
  /-- Generated anew under the comments above it. -/
  | replaced (d : Decl) (body : String) (shape : Shape)
  | dropped (d : Decl)
  | inserted (d : Decl)

namespace Change

def before : Change → Option Decl
  | kept d _ | replaced d _ _ | dropped d => some d
  | inserted _ => none

def after : Change → Option Decl
  | kept d managed => some { d with managed }
  | replaced d body shape => some { d with body, shape, managed := true }
  | dropped _ => none
  | inserted d => some d

section

variable (d : Decl) (managed : Bool) (body : String) (shape : Shape)

@[simp] lemma before_kept : (kept d managed).before = some d := rfl
@[simp] lemma before_replaced : (replaced d body shape).before = some d := rfl
@[simp] lemma before_dropped : (dropped d).before = some d := rfl
@[simp] lemma before_inserted : (inserted d).before = none := rfl
@[simp] lemma filterMap_before_inserted (cs : List Change) :
    (inserted d :: cs).filterMap before = cs.filterMap before := rfl

@[simp] lemma after_kept : (kept d managed).after = some { d with managed } := rfl
@[simp] lemma after_replaced :
    (replaced d body shape).after = some { d with body, shape, managed := true } := rfl
@[simp] lemma after_dropped : (dropped d).after = none := rfl
@[simp] lemma filterMap_after_dropped (cs : List Change) :
    (dropped d :: cs).filterMap after = cs.filterMap after := rfl
@[simp] lemma after_inserted : (inserted d).after = some d := rfl

end

end Change

/-- All of `ds` as they are. -/
def keep (ds : List Decl) : List Change := ds.map fun d => .kept d d.managed

@[simp] lemma filterMap_before_keep (ds : List Decl) :
    (keep ds).filterMap Change.before = ds := by
  induction ds with
  | nil => rfl
  | cons d ds ih => simpa [keep] using ih

@[simp] lemma filterMap_after_keep (ds : List Decl) :
    (keep ds).filterMap Change.after = ds := by
  induction ds with
  | nil => rfl
  | cons d ds ih => simpa [keep] using ih

/-- The two files agree in all but declarations and imports. -/
structure SameFrame (f g : File) : Prop where
  header : g.header = f.header
  package : g.package = f.package
  packageLine : g.packageLine = f.packageLine
  importTail : g.importTail = f.importTail
  trailer : g.trailer = f.trailer

/-- The changes lead from the declarations of `f` to those of `g`. -/
structure Rewrites (cs : List Change) (f g : File) : Prop extends SameFrame f g where
  before : cs.filterMap Change.before = f.decls
  after : cs.filterMap Change.after = g.decls

namespace SameFrame

variable {f g h : File}

lemma refl (f : File) : SameFrame f f := ⟨rfl, rfl, rfl, rfl, rfl⟩

lemma trans (a : SameFrame f g) (b : SameFrame g h) : SameFrame f h where
  header := b.header.trans a.header
  package := b.package.trans a.package
  packageLine := b.packageLine.trans a.packageLine
  importTail := b.importTail.trans a.importTail
  trailer := b.trailer.trans a.trailer

lemma insert (f : File) (i : ℕ) (d : Decl) : SameFrame f (f.insert i d) :=
  ⟨rfl, rfl, rfl, rfl, rfl⟩

lemma replace (f : File) (i : ℕ) (body : String) (shape : Shape) :
    SameFrame f (f.replace i body shape) :=
  ⟨rfl, rfl, rfl, rfl, rfl⟩

lemma setManaged (f : File) (i : ℕ) (managed : Bool) : SameFrame f (f.setManaged i managed) :=
  ⟨rfl, rfl, rfl, rfl, rfl⟩

lemma remove (f : File) (i : ℕ) : SameFrame f (f.remove i) := ⟨rfl, rfl, rfl, rfl, rfl⟩

end SameFrame

/-! ### Imports -/

lemma setImport_frame (f : File) (path : String) (keep : Bool) :
    SameFrame f (setImport f path keep) ∧ (setImport f path keep).decls = f.decls := by
  unfold setImport
  split
  · unfold File.addImport
    split
    · exact ⟨.refl f, rfl⟩
    · exact ⟨⟨rfl, rfl, rfl, rfl, rfl⟩, rfl⟩
  · split
    · exact ⟨⟨rfl, rfl, rfl, rfl, rfl⟩, rfl⟩
    · exact ⟨.refl f, rfl⟩

lemma foldl_setImport_frame (keep : String → Bool) (paths : List String) (f : File) :
    SameFrame f (paths.foldl (fun g p => setImport g p (keep p)) f) ∧
      (paths.foldl (fun g p => setImport g p (keep p)) f).decls = f.decls := by
  induction paths generalizing f with
  | nil => exact ⟨.refl f, rfl⟩
  | cons p ps ih =>
    obtain ⟨h₁, h₂⟩ := setImport_frame f p (keep p)
    obtain ⟨h₃, h₄⟩ := ih (setImport f p (keep p))
    exact ⟨h₁.trans h₃, h₄.trans h₂⟩

lemma syncImports_frame (f : File) (needed : List String) : SameFrame f (syncImports f needed) :=
  (foldl_setImport_frame _ _ f).1

@[simp] lemma syncImports_decls (f : File) (needed : List String) :
    (syncImports f needed).decls = f.decls :=
  (foldl_setImport_frame _ _ f).2

/-! ### Finding a struct -/

lemma locateStruct_eq_none {f : File} {name : String} (h : locateStruct f name = .ok none) :
    ∀ d ∈ f.decls, d.shape.declares name = false := by
  apply File.find?_eq_none.mp
  rcases hf : f.find? name with _ | ⟨i, d⟩
  · rfl
  · simp only [locateStruct, hf] at h
    split at h <;> simp at h

lemma locateStruct_eq_some {f : File} {name : String} {i : ℕ}
    (h : locateStruct f name = .ok (some i)) :
    ∃ l₁ d l₂ fields, f.decls = l₁ ++ d :: l₂ ∧ l₁.length = i ∧ d.shape = .struct name fields ∧
      ∀ e ∈ l₁, e.shape.declares name = false := by
  rcases hf : f.find? name with _ | ⟨j, d⟩
  · simp [locateStruct, hf] at h
  · simp only [locateStruct, hf] at h
    obtain ⟨l₁, l₂, hl, hj, hd, hb⟩ := File.find?_eq_some hf
    split at h
    · next n fields hs =>
      obtain rfl : j = i := by simpa using h
      have hn : n = name := by simpa [Shape.declares, Shape.names, hs, eq_comm] using hd
      exact ⟨l₁, d, l₂, fields, hl, hj, by rw [hs, hn], hb⟩
    · simp at h

lemma locateStruct_split {f : File} {name : String} {l₁ l₂ : List Decl} {d : Decl}
    {fields : List String} (hf : f.decls = l₁ ++ d :: l₂) (hd : d.shape = .struct name fields)
    (h₁ : ∀ e ∈ l₁, e.shape.declares name = false) :
    locateStruct f name = .ok (some l₁.length) := by
  have h := File.find?_split hf h₁ (by simp [hd, Shape.declares, Shape.names])
  simp [locateStruct, h, hd]

lemma extensionName_ne_typeName (t : Table) : t.extensionName ≠ t.typeName := by
  intro h
  have := congrArg String.length h
  simp [Table.extensionName] at this

/-! ### Composite types -/

/-- The struct of a composite type is generated anew where it stands, or inserted. -/
inductive CompositeChanges (type : String) (fields : List Field) : List Change → Prop
  | replaced (l₁ l₂ : List Decl) (d : Decl) (old : List String)
      (shape : d.shape = .struct type old)
      (first : ∀ e ∈ l₁, e.shape.declares type = false) :
      CompositeChanges type fields
        (keep l₁ ++ .replaced d (renderStruct type fields) (structShape type fields) :: keep l₂)
  | inserted (l₁ l₂ : List Decl) (absent : ∀ e ∈ l₁ ++ l₂, e.shape.declares type = false) :
      CompositeChanges type fields
        (keep l₁ ++ .inserted (.generated (renderStruct type fields) (structShape type fields)) ::
          keep l₂)

lemma mergeComposite_steps {c : CompositeType} {f g : File} (h : mergeComposite c f = .ok g) :
    ∃ fs f₂, columnFields c.columns = .ok fs ∧ g = syncImports f₂ fs.imports ∧
      ((∃ i, locateStruct f c.typeName = .ok (some i) ∧
          f₂ = f.replace i (renderStruct c.typeName fs.fields) (structShape c.typeName fs.fields)) ∨
        (locateStruct f c.typeName = .ok none ∧
          f₂ = f.insert f.anchor (.generated (renderStruct c.typeName fs.fields)
            (structShape c.typeName fs.fields)))) := by
  simp only [mergeComposite, bind, Except.bind, pure, Except.pure] at h
  rcases hfs : columnFields c.columns with e | fs
  · simp [hfs] at h
  rcases hl : locateStruct f c.typeName with e | _ | i
  · simp [hfs, hl] at h
  · simp only [hfs, hl, Except.ok.injEq] at h
    exact ⟨fs, _, rfl, h.symm, .inr ⟨rfl, rfl⟩⟩
  · simp only [hfs, hl, Except.ok.injEq] at h
    exact ⟨fs, _, rfl, h.symm, .inl ⟨i, rfl, rfl⟩⟩

lemma mergeComposite_changes {c : CompositeType} {f g : File} (h : mergeComposite c f = .ok g) :
    ∃ cs fs, Rewrites cs f g ∧ columnFields c.columns = .ok fs ∧
      CompositeChanges c.typeName fs.fields cs := by
  obtain ⟨fs, f₂, hfs, rfl, ⟨i, hl, rfl⟩ | ⟨hl, rfl⟩⟩ := mergeComposite_steps h
  · obtain ⟨l₁, d, l₂, old, hf, rfl, hd, hb⟩ := locateStruct_eq_some hl
    have hg := File.replace_split hf (renderStruct c.typeName fs.fields)
      (structShape c.typeName fs.fields)
    refine ⟨_, fs, ⟨(SameFrame.replace f _ _ _).trans (syncImports_frame _ _), ?_, ?_⟩, hfs,
      .replaced l₁ l₂ d old hd hb⟩
    · simp [hf]
    · simp [hg]
  · obtain ⟨l₁, l₂, hf, -, hg⟩ := File.insert_decls f.anchor_le
      (.generated (renderStruct c.typeName fs.fields) (structShape c.typeName fs.fields))
    have hn := locateStruct_eq_none hl
    rw [hf] at hn
    refine ⟨_, fs, ⟨(SameFrame.insert f _ _).trans (syncImports_frame _ _), ?_, ?_⟩, hfs,
      .inserted l₁ l₂ hn⟩
    · simp [hf]
    · simp [hg]

/-! ### Tables -/

section Tables

/-- The main struct of a table is generated anew, or inserted behind the container, which is
inserted where there is none. -/
inductive TableChanges (t : Table) (fields : List Field) : List Change → Prop
  | replaced (l₁ l₂ : List Decl) (d : Decl) (old : List String)
      (shape : d.shape = .struct t.typeName old)
      (first : ∀ e ∈ l₁, e.shape.declares t.typeName = false) :
      TableChanges t fields
        (keep l₁ ++ .replaced d (renderStruct t.typeName fields) (structShape t.typeName fields) ::
          keep l₂)
  | insertedMain (l₁ l₂ : List Decl) (box : Decl) (declared : List String)
      (shape : box.shape = .struct t.extensionName declared)
      (first : ∀ e ∈ l₁, e.shape.declares t.extensionName = false)
      (absent : ∀ e ∈ l₁ ++ box :: l₂, e.shape.declares t.typeName = false) :
      TableChanges t fields
        (keep l₁ ++ .kept box box.managed ::
          .inserted (.generated (renderStruct t.typeName fields) (structShape t.typeName fields)) ::
          keep l₂)
  | insertedBoth (l₁ l₂ : List Decl)
      (absent : ∀ e ∈ l₁ ++ l₂, e.shape.declares t.extensionName = false)
      (absent' : ∀ e ∈ l₁ ++ l₂, e.shape.declares t.typeName = false) :
      TableChanges t fields
        (keep l₁ ++ .inserted (container t) ::
          .inserted (.generated (renderStruct t.typeName fields) (structShape t.typeName fields)) ::
          keep l₂)
  | replacedBehind (l₁ l₂ l₃ : List Decl) (d : Decl) (old : List String)
      (shape : d.shape = .struct t.typeName old)
      (first : ∀ e ∈ l₁ ++ l₂, e.shape.declares t.typeName = false)
      (absent : ∀ e ∈ l₁ ++ l₂ ++ d :: l₃, e.shape.declares t.extensionName = false) :
      TableChanges t fields
        (keep l₁ ++ .inserted (container t) :: keep l₂ ++
          .replaced d (renderStruct t.typeName fields) (structShape t.typeName fields) :: keep l₃)
  | replacedBefore (l₁ l₂ l₃ : List Decl) (d : Decl) (old : List String)
      (shape : d.shape = .struct t.typeName old)
      (first : ∀ e ∈ l₁, e.shape.declares t.typeName = false)
      (absent : ∀ e ∈ l₁ ++ d :: l₂ ++ l₃, e.shape.declares t.extensionName = false) :
      TableChanges t fields
        (keep l₁ ++ .replaced d (renderStruct t.typeName fields) (structShape t.typeName fields) ::
          keep l₂ ++ .inserted (container t) :: keep l₃)

variable {t : Table} {f g : File}

lemma withContainer_cases {i : ℕ} (h : withContainer t f = .ok (g, i)) :
    (g = f ∧ locateStruct f t.extensionName = .ok (some i)) ∨
      (locateStruct f t.extensionName = .ok none ∧ g = f.insert f.anchor (container t) ∧
        i = f.anchor) := by
  simp only [withContainer, bind, Except.bind, pure, Except.pure] at h
  rcases hl : locateStruct f t.extensionName with e | _ | j
  · simp [hl] at h
  · simp only [hl, File.place_anchor, Except.ok.injEq, Prod.mk.injEq] at h
    exact .inr ⟨rfl, h.1.symm, h.2.symm⟩
  · simp only [hl, Except.ok.injEq, Prod.mk.injEq] at h
    obtain ⟨rfl, rfl⟩ := h
    exact .inl ⟨rfl, rfl⟩

lemma placeMain_cases {fields : List Field} (h : placeMain t fields f = .ok g) :
    (∃ i, locateStruct f t.typeName = .ok (some i) ∧
        g = f.replace i (renderStruct t.typeName fields) (structShape t.typeName fields)) ∨
      (locateStruct f t.typeName = .ok none ∧
        ∃ i?, locateStruct f t.extensionName = .ok i? ∧
          g = f.insert (i?.elim f.anchor (· + 1))
            (.generated (renderStruct t.typeName fields) (structShape t.typeName fields))) := by
  simp only [placeMain, bind, Except.bind, pure, Except.pure] at h
  rcases hl : locateStruct f t.typeName with e | _ | i
  · simp [hl] at h
  · rcases hx : locateStruct f t.extensionName with e | _ | j
    · simp [hl, hx] at h
    · simp only [hl, hx, Except.ok.injEq] at h
      exact .inr ⟨rfl, none, rfl, h.symm⟩
    · simp only [hl, hx, Except.ok.injEq] at h
      exact .inr ⟨rfl, some j, rfl, h.symm⟩
  · simp only [hl, Except.ok.injEq] at h
    exact .inl ⟨i, rfl, h.symm⟩

@[simp] lemma container_shape (t : Table) : (container t).shape = .struct t.extensionName [] := rfl

lemma mergeTable_steps (h : mergeTable t f = .ok g) :
    ∃ f₁ i fs f₂, withContainer t f = .ok (f₁, i) ∧ mainFields t (fieldsAt f₁ i) = .ok fs ∧
      placeMain t fs.fields f₁ = .ok f₂ ∧ g = syncImports f₂ fs.imports := by
  simp only [mergeTable, bind, Except.bind, pure, Except.pure] at h
  rcases hc : withContainer t f with e | ⟨f₁, i⟩
  · simp [hc] at h
  rcases hm : mainFields t (fieldsAt f₁ i) with e | fs
  · simp [hc, hm] at h
  rcases hp : placeMain t fs.fields f₁ with e | f₂
  · simp [hc, hm, hp] at h
  simp only [hc, hm, hp, Except.ok.injEq] at h
  exact ⟨f₁, i, fs, f₂, rfl, hm, hp, h.symm⟩

/-- The container is there: the main struct is replaced, or put right behind the container. -/
lemma placeMain_changes_oldContainer {i : ℕ} {fields : List Field}
    (hx : locateStruct f t.extensionName = .ok (some i)) (hp : placeMain t fields f = .ok g) :
    ∃ cs, Rewrites cs f g ∧ TableChanges t fields cs := by
  rcases placeMain_cases hp with ⟨j, hl, rfl⟩ | ⟨hl, i?, hi, rfl⟩
  · obtain ⟨l₁, d, l₂, old, hf, rfl, hd, hb⟩ := locateStruct_eq_some hl
    have hg := File.replace_split hf (renderStruct t.typeName fields)
      (structShape t.typeName fields)
    exact ⟨_, ⟨.replace _ _ _ _, by simp [hf], by simp [hg]⟩, .replaced l₁ l₂ d old hd hb⟩
  · obtain rfl : i? = some i := by simpa [hx, eq_comm] using hi
    obtain ⟨l₁, box, l₂, declared, hf, rfl, hd, hb⟩ := locateStruct_eq_some hx
    have hn := locateStruct_eq_none hl
    have hf' : f.decls = (l₁ ++ [box]) ++ l₂ := by simp [hf]
    have hg := File.insert_split hf'
      (.generated (renderStruct t.typeName fields) (structShape t.typeName fields))
    rw [List.length_append, List.length_singleton] at hg
    exact ⟨_, ⟨.insert _ _ _, by simp [hf], by simp [hg]⟩,
      .insertedMain l₁ l₂ box declared hd hb (hf ▸ hn)⟩

/-- The container is new, so no declaration before it has its name: the main struct is replaced on
either side of it, or put right behind it. -/
lemma placeMain_changes_newContainer {fields : List Field}
    (hx : locateStruct f t.extensionName = .ok none)
    (hp : placeMain t fields (f.insert f.anchor (container t)) = .ok g) :
    ∃ cs, Rewrites cs f g ∧ TableChanges t fields cs := by
  obtain ⟨l₁, l₂, hf, hi, hg₁⟩ := File.insert_decls f.anchor_le (container t)
  have hx' := locateStruct_eq_none hx
  rw [hf] at hx'
  have hframe := SameFrame.insert f f.anchor (container t)
  rcases placeMain_cases hp with ⟨j, hl, rfl⟩ | ⟨hl, i?, hi?, rfl⟩
  · obtain ⟨k₁, d, k₂, old, hk, rfl, hd, hb⟩ := locateStruct_eq_some hl
    have hg := File.replace_split hk (renderStruct t.typeName fields)
      (structShape t.typeName fields)
    have hframe' := hframe.trans (.replace _ k₁.length (renderStruct t.typeName fields)
      (structShape t.typeName fields))
    rw [hg₁] at hk
    rcases List.append_eq_append_iff.mp hk with ⟨m, hm₁, hm₂⟩ | ⟨m, hm₁, hm₂⟩
    · -- the old struct stands behind the container
      rcases m with _ | ⟨x, m⟩
      · obtain rfl : container t = d := by simpa using (List.cons.inj hm₂).1
        exact absurd hd (by simp [extensionName_ne_typeName])
      · obtain ⟨rfl, rfl⟩ : container t = x ∧ l₂ = m ++ d :: k₂ := by simpa using hm₂
        subst hm₁
        simp only [List.forall_mem_append, List.forall_mem_cons] at hb
        refine ⟨_, ⟨hframe', ?_, ?_⟩, .replacedBehind l₁ m k₂ d old hd ?_ ?_⟩
        · simp [hf]
        · rw [hg]; simp
        · exact List.forall_mem_append.mpr ⟨hb.1, hb.2.2⟩
        · simpa using hx'
    · -- it stands before it
      rcases m with _ | ⟨x, m⟩
      · obtain rfl : d = container t := by simpa using (List.cons.inj hm₂).1
        exact absurd hd (by simp [extensionName_ne_typeName])
      · obtain ⟨rfl, rfl⟩ : d = x ∧ k₂ = m ++ container t :: l₂ := by simpa using hm₂
        subst hm₁
        refine ⟨_, ⟨hframe', ?_, ?_⟩, .replacedBefore k₁ m l₂ d old hd hb ?_⟩
        · simp [hf]
        · simp [hg]
        · simpa using hx'
  · have hl' := locateStruct_eq_none hl
    rw [hg₁] at hl'
    simp only [List.forall_mem_append, List.forall_mem_cons] at hl'
    have hloc : locateStruct (f.insert f.anchor (container t)) t.extensionName =
        .ok (some l₁.length) :=
      locateStruct_split hg₁ rfl (List.forall_mem_append.mp hx').1
    obtain rfl : i? = some l₁.length := by simpa [hloc, eq_comm] using hi?
    have hf' : (f.insert f.anchor (container t)).decls = (l₁ ++ [container t]) ++ l₂ := by
      simp [hg₁]
    have hg := File.insert_split hf'
      (.generated (renderStruct t.typeName fields) (structShape t.typeName fields))
    rw [List.length_append, List.length_singleton] at hg
    refine ⟨_, ⟨hframe.trans (.insert _ _ _), by simp [hf], ?_⟩,
      .insertedBoth l₁ l₂ hx' (List.forall_mem_append.mpr ⟨hl'.1, hl'.2.2⟩)⟩
    simp [hg]

/-- The changes up to the imports: the container is put in its place, then the main struct. -/
lemma placeMain_changes {f₁ : File} {i : ℕ} {fields : List Field}
    (hc : withContainer t f = .ok (f₁, i)) (hp : placeMain t fields f₁ = .ok g) :
    ∃ cs, Rewrites cs f g ∧ TableChanges t fields cs := by
  rcases withContainer_cases hc with ⟨rfl, hx⟩ | ⟨hx, rfl, rfl⟩
  · exact placeMain_changes_oldContainer hx hp
  · exact placeMain_changes_newContainer hx hp

lemma Rewrites.syncImports {cs : List Change} (h : Rewrites cs f g) (needed : List String) :
    Rewrites cs f (syncImports g needed) where
  toSameFrame := h.toSameFrame.trans (syncImports_frame _ _)
  before := h.before
  after := by rw [h.after, syncImports_decls]

lemma mergeTable_changes (h : mergeTable t f = .ok g) :
    ∃ cs declared fs, Rewrites cs f g ∧ mainFields t declared = .ok fs ∧
      TableChanges t fs.fields cs := by
  obtain ⟨f₁, i, fs, f₂, hc, hm, hp, rfl⟩ := mergeTable_steps h
  obtain ⟨cs, hr, ht⟩ := placeMain_changes hc hp
  exact ⟨cs, _, fs, hr.syncImports _, hm, ht⟩

end Tables

/-! ### Enums -/

section Enums

/-- The old block of an enum is generated anew, or dropped with the last of the values. -/
def blockChange (type : String) (members : List Member) (d : Decl) : Change :=
  if members.isEmpty then .dropped d
  else .replaced d (renderConsts type members) (constsShape type members)

/-- Where there is no block, the members get one. -/
def newBlock (type : String) (members : List Member) : List Change :=
  if members.isEmpty then []
  else [.inserted (.generated (renderConsts type members) (constsShape type members))]

/-- What is done about the type of an enum. -/
inductive TypeChange (type : String) : Change → Prop
  | kept (d : Decl) (shape : d.shape = .named type "string") : TypeChange type (.kept d true)
  | inserted : TypeChange type (.inserted (enumTypeDecl type))

/-- The type of an enum is kept or inserted, its block generated anew or dropped. -/
inductive EnumChanges (type : String) (members : List Member) : List Change → Prop
  | noBlock (l₁ l₂ : List Decl) (c : Change) (typed : TypeChange type c)
      (first : ∀ e ∈ l₁, e.shape.declares type = false)
      (absent : ∀ e ∈ l₁ ++ l₂, isEnumBlock type e.shape = false) :
      EnumChanges type members (keep l₁ ++ c :: newBlock type members ++ keep l₂)
  | insertedType (l₁ l₂ : List Decl) (b : Decl) (block : isEnumBlock type b.shape)
      (first : ∀ e ∈ l₁, isEnumBlock type e.shape = false)
      (absent : ∀ e ∈ l₁ ++ b :: l₂, e.shape.declares type = false) :
      EnumChanges type members
        (keep l₁ ++ .inserted (enumTypeDecl type) :: blockChange type members b :: keep l₂)
  | blockBehind (l₁ l₂ l₃ : List Decl) (d b : Decl) (shape : d.shape = .named type "string")
      (first : ∀ e ∈ l₁, e.shape.declares type = false) (block : isEnumBlock type b.shape)
      (first' : ∀ e ∈ l₁ ++ d :: l₂, isEnumBlock type e.shape = false) :
      EnumChanges type members
        (keep l₁ ++ .kept d true :: keep l₂ ++ blockChange type members b :: keep l₃)
  | blockBefore (l₁ l₂ l₃ : List Decl) (b d : Decl) (shape : d.shape = .named type "string")
      (first : ∀ e ∈ l₁ ++ b :: l₂, e.shape.declares type = false)
      (block : isEnumBlock type b.shape) (first' : ∀ e ∈ l₁, isEnumBlock type e.shape = false) :
      EnumChanges type members
        (keep l₁ ++ blockChange type members b :: keep l₂ ++ .kept d true :: keep l₃)

variable {type : String} {members : List Member} {f g : File}

lemma locateEnumType_eq_none (h : locateEnumType f type = .ok none) :
    ∀ d ∈ f.decls, d.shape.declares type = false := by
  apply File.find?_eq_none.mp
  rcases hf : f.find? type with _ | ⟨i, d⟩
  · rfl
  · simp only [locateEnumType, hf] at h
    split at h
    · split at h <;> simp at h
    · simp at h

lemma locateEnumType_eq_some {i : ℕ} (h : locateEnumType f type = .ok (some i)) :
    ∃ l₁ d l₂, f.decls = l₁ ++ d :: l₂ ∧ l₁.length = i ∧ d.shape = .named type "string" ∧
      ∀ e ∈ l₁, e.shape.declares type = false := by
  rcases hf : f.find? type with _ | ⟨j, d⟩
  · simp [locateEnumType, hf] at h
  · simp only [locateEnumType, hf] at h
    obtain ⟨l₁, l₂, hl, hj, hd, hb⟩ := File.find?_eq_some hf
    split at h
    · next n u hs =>
      split at h
      · next hu =>
        obtain rfl : j = i := by simpa using h
        have hn : n = type := by simpa [Shape.declares, Shape.names, hs, eq_comm] using hd
        exact ⟨l₁, d, l₂, hl, hj, by rw [hs, hn, hu], hb⟩
      · simp at h
    · simp at h

lemma locateEnumBlock_eq_none :
    locateEnumBlock f type = none ↔ ∀ d ∈ f.decls, isEnumBlock type d.shape = false :=
  List.findIdx?_eq_none_iff

lemma locateEnumBlock_eq_some {i : ℕ} (h : locateEnumBlock f type = some i) :
    ∃ l₁ b l₂, f.decls = l₁ ++ b :: l₂ ∧ l₁.length = i ∧ isEnumBlock type b.shape ∧
      ∀ e ∈ l₁, isEnumBlock type e.shape = false :=
  exists_split_of_findIdx? h

lemma locateEnumBlock_split {l₁ l₂ : List Decl} {b : Decl} (hf : f.decls = l₁ ++ b :: l₂)
    (hb : isEnumBlock type b.shape) (h₁ : ∀ e ∈ l₁, isEnumBlock type e.shape = false) :
    locateEnumBlock f type = some l₁.length := by
  rw [locateEnumBlock, hf]
  exact findIdx?_split h₁ hb

@[simp] lemma isEnumBlock_named (type name underlying : String) :
    isEnumBlock type (.named name underlying) = false := rfl

lemma placeBlock_frame (i : ℕ) (f : File) : SameFrame f (placeBlock type members i f) := by
  unfold placeBlock
  split <;> split
  · exact .remove _ _
  · exact .replace _ _ _ _
  · exact .refl _
  · exact .insert _ _ _

lemma placeBlock_decls_only (i : ℕ) (f : File) :
    placeBlock type members i f = { f with decls := (placeBlock type members i f).decls } := by
  unfold placeBlock
  split <;> split <;> rfl

lemma placeBlock_old {l₁ l₂ : List Decl} {b : Decl} (hf : f.decls = l₁ ++ b :: l₂)
    (hb : isEnumBlock type b.shape) (h₁ : ∀ e ∈ l₁, isEnumBlock type e.shape = false) (i : ℕ) :
    (placeBlock type members i f).decls =
      l₁ ++ (blockChange type members b).after.toList ++ l₂ := by
  simp only [placeBlock, locateEnumBlock_split hf hb h₁, blockChange]
  split
  · simpa using File.remove_split hf
  · simpa using File.replace_split hf (renderConsts type members) (constsShape type members)

lemma placeBlock_new {l₁ l₂ : List Decl} {d : Decl} (hf : f.decls = l₁ ++ d :: l₂)
    (hn : ∀ e ∈ f.decls, isEnumBlock type e.shape = false) :
    (placeBlock type members l₁.length f).decls =
      l₁ ++ d :: (newBlock type members).filterMap Change.after ++ l₂ := by
  simp only [placeBlock, locateEnumBlock_eq_none.mpr hn, newBlock]
  split
  · simp [hf]
  · have hf' : f.decls = (l₁ ++ [d]) ++ l₂ := by simp [hf]
    have hg := File.insert_split hf'
      (.generated (renderConsts type members) (constsShape type members))
    rw [List.length_append, List.length_singleton] at hg
    rw [hg]
    simp

/-- The file with the type of the enum, which is then recorded as the generator's. -/
def typed (type : String) (located : Option ℕ) (f : File) : File :=
  (withEnumType type located f).1.setManaged (withEnumType type located f).2 true

lemma typed_frame (located : Option ℕ) (f : File) : SameFrame f (typed type located f) := by
  unfold typed withEnumType
  split
  · exact .setManaged _ _ _
  · exact (SameFrame.insert _ _ _).trans (.setManaged _ _ _)

lemma typed_located (type : String) {l₁ l₂ : List Decl} {d : Decl} (hf : f.decls = l₁ ++ d :: l₂) :
    (typed type (some l₁.length) f).decls = l₁ ++ { d with managed := true } :: l₂ :=
  File.setManaged_split hf true

lemma typed_new (type : String) {l₁ l₂ : List Decl} (hf : f.decls = l₁ ++ l₂)
    (hi : (locateEnumBlock f type).getD f.anchor = l₁.length) :
    (typed type none f).decls = l₁ ++ enumTypeDecl type :: l₂ ∧
      (withEnumType type none f).2 = l₁.length := by
  have hp : f.place l₁.length = l₁.length := by
    rw [File.place, hf, List.length_append]; omega
  have hg := File.insert_split hf (enumTypeDecl type)
  have hm := File.setManaged_split hg true
  simp only [typed, withEnumType, hi, hp]
  exact ⟨hm, trivial⟩

lemma newBlock_before (type : String) (members : List Member) :
    (newBlock type members).filterMap Change.before = [] := by
  unfold newBlock
  split <;> rfl

@[simp] lemma blockChange_before (type : String) (members : List Member) (b : Decl) :
    (blockChange type members b).before = some b := by
  unfold blockChange
  split <;> rfl

lemma filterMap_after_cons (c : Change) (cs : List Change) :
    (c :: cs).filterMap Change.after = c.after.toList ++ cs.filterMap Change.after := by
  rcases h : c.after with _ | d <;> simp [h]

lemma mergeEnum_steps {e : EnumType} (h : mergeEnum e f = .ok g) :
    ∃ members located, enumMembers e.typeName e.values = .ok members ∧
      locateEnumType f e.typeName = .ok located ∧
      checkMembers f (locateEnumBlock f e.typeName) members = .ok () ∧
      g = syncImports (placeBlock e.typeName members (withEnumType e.typeName located f).2
        (typed e.typeName located f)) [] := by
  simp only [mergeEnum, bind, Except.bind, pure, Except.pure] at h
  rcases hm : enumMembers e.typeName e.values with x | members
  · simp [hm] at h
  rcases hl : locateEnumType f e.typeName with x | located
  · simp [hm, hl] at h
  rcases hc : checkMembers f (locateEnumBlock f e.typeName) members with x | ⟨⟩
  · simp [hm, hl, hc] at h
  simp only [hm, hl, hc, Except.ok.injEq] at h
  exact ⟨members, located, rfl, rfl, hc, h.symm⟩

/-- The type is new: it is put in front of the block, and a new block behind it. -/
lemma enumChanges_newType (members : List Member) (hl : locateEnumType f type = .ok none) :
    ∃ cs, cs.filterMap Change.before = f.decls ∧
      cs.filterMap Change.after =
        (placeBlock type members (withEnumType type none f).2 (typed type none f)).decls ∧
      EnumChanges type members cs := by
  have hn := locateEnumType_eq_none hl
  rcases hb : locateEnumBlock f type with _ | j
  · obtain ⟨l₁, l₂, hf, ha, -⟩ := File.insert_decls f.anchor_le (enumTypeDecl type)
    obtain ⟨ht, hp⟩ := typed_new type hf (by simp [hb, ha])
    have hno := locateEnumBlock_eq_none.mp hb
    rw [hf] at hn hno
    have hno' : ∀ d ∈ (typed type none f).decls, isEnumBlock type d.shape = false := by
      rw [ht]
      simp only [List.forall_mem_append, List.forall_mem_cons] at hno ⊢
      exact ⟨hno.1, rfl, hno.2⟩
    refine ⟨_, ?_, ?_, .noBlock l₁ l₂ _ .inserted (List.forall_mem_append.mp hn).1 hno⟩
    · simp [hf, newBlock_before]
    · rw [hp, placeBlock_new ht hno']
      simp
  · obtain ⟨l₁, b, l₂, hf, hj, hbl, hb₁⟩ := locateEnumBlock_eq_some hb
    obtain ⟨ht, hp⟩ := typed_new type hf (by simp [hb, hj])
    have ht' : (typed type none f).decls = (l₁ ++ [enumTypeDecl type]) ++ b :: l₂ := by simp [ht]
    have hb₁' : ∀ d ∈ l₁ ++ [enumTypeDecl type], isEnumBlock type d.shape = false :=
      List.forall_mem_append.mpr ⟨hb₁, List.forall_mem_singleton.mpr rfl⟩
    refine ⟨_, ?_, ?_, .insertedType l₁ l₂ b hbl hb₁ (hf ▸ hn)⟩
    · simp [hf]
    · rw [hp, placeBlock_old ht' hbl hb₁']
      simp [filterMap_after_cons]

/-- The type is there: it is kept, and the block is on either side of it or is new. -/
lemma enumChanges_oldType (members : List Member) {j : ℕ}
    (hl : locateEnumType f type = .ok (some j)) :
    ∃ cs, cs.filterMap Change.before = f.decls ∧
      cs.filterMap Change.after =
        (placeBlock type members (withEnumType type (some j) f).2
          (typed type (some j) f)).decls ∧
      EnumChanges type members cs := by
  obtain ⟨l₁, d, l₂, hf, rfl, hd, hfirst⟩ := locateEnumType_eq_some hl
  have ht := typed_located type hf
  have hd' : isEnumBlock type { d with managed := true }.shape = false := by
    simp [hd]
  change ∃ cs, _ ∧ _ = (placeBlock type members l₁.length _).decls ∧ _
  rcases hb : locateEnumBlock (typed type (some l₁.length) f) type with _ | j
  · have hno := locateEnumBlock_eq_none.mp hb
    refine ⟨_, ?_, ?_, .noBlock l₁ l₂ _ (.kept d hd) hfirst ?_⟩
    · simp [hf, newBlock_before]
    · rw [placeBlock_new ht hno]
      simp
    · rw [ht] at hno
      simp only [List.forall_mem_append, List.forall_mem_cons] at hno ⊢
      exact ⟨hno.1, hno.2.2⟩
  · obtain ⟨k₁, b, k₂, hk, -, hbl, hb₁⟩ := locateEnumBlock_eq_some hb
    rw [placeBlock_old hk hbl hb₁]
    rw [ht] at hk
    rcases List.append_eq_append_iff.mp hk with ⟨m, hm₁, hm₂⟩ | ⟨m, hm₁, hm₂⟩
    · -- the block stands behind the type
      rcases m with _ | ⟨x, m⟩
      · obtain ⟨rfl, -⟩ := List.cons.inj hm₂
        rw [hd'] at hbl
        exact absurd hbl (by simp)
      · obtain ⟨rfl, rfl⟩ : { d with managed := true } = x ∧ l₂ = m ++ b :: k₂ := by
          simpa using hm₂
        subst hm₁
        simp only [List.forall_mem_append, List.forall_mem_cons] at hb₁
        refine ⟨_, ?_, ?_, .blockBehind l₁ m k₂ d b hd hfirst hbl ?_⟩
        · simp [hf]
        · simp [filterMap_after_cons]
        · simp only [List.forall_mem_append, List.forall_mem_cons]
          exact hb₁
    · -- it stands before it
      rcases m with _ | ⟨x, m⟩
      · obtain ⟨rfl, -⟩ := List.cons.inj hm₂
        rw [hd'] at hbl
        exact absurd hbl (by simp)
      · obtain ⟨rfl, rfl⟩ : b = x ∧ k₂ = m ++ { d with managed := true } :: l₂ := by
          simpa using hm₂
        subst hm₁
        refine ⟨_, ?_, ?_, .blockBefore k₁ m l₂ b d hd hfirst hbl hb₁⟩
        · simp [hf]
        · simp [filterMap_after_cons]

lemma mergeEnum_changes {e : EnumType} (h : mergeEnum e f = .ok g) :
    ∃ cs members, Rewrites cs f g ∧ enumMembers e.typeName e.values = .ok members ∧
      EnumChanges e.typeName members cs := by
  obtain ⟨members, located, hm, hl, -, rfl⟩ := mergeEnum_steps h
  obtain ⟨cs, hb, ha, he⟩ : ∃ cs, cs.filterMap Change.before = f.decls ∧
      cs.filterMap Change.after = (placeBlock e.typeName members
        (withEnumType e.typeName located f).2 (typed e.typeName located f)).decls ∧
      EnumChanges e.typeName members cs := by
    cases located with
    | none => exact enumChanges_newType members hl
    | some j => exact enumChanges_oldType members hl
  exact ⟨cs, members, ⟨((typed_frame located f).trans (placeBlock_frame _ _)).trans
    (syncImports_frame _ _), hb, by rw [ha, syncImports_decls]⟩, hm, he⟩

end Enums

/-! ### All models -/

/-- The changes that the merge of a model makes. -/
def ModelChanges (cs : List Change) : Model → Prop
  | .table t =>
    ∃ declared fs, mainFields t declared = .ok fs ∧ TableChanges t fs.fields cs
  | .enum e =>
    ∃ members, enumMembers e.typeName e.values = .ok members ∧ EnumChanges e.typeName members cs
  | .composite c =>
    ∃ fs, columnFields c.columns = .ok fs ∧ CompositeChanges c.typeName fs.fields cs

lemma merge_changes {m : Model} {f g : File} (h : m.merge f = .ok g) :
    ∃ cs, Rewrites cs f g ∧ ModelChanges cs m := by
  cases m with
  | table t =>
    obtain ⟨cs, declared, fs, hr, hm, hc⟩ := mergeTable_changes h
    exact ⟨cs, hr, declared, fs, hm, hc⟩
  | enum e =>
    obtain ⟨cs, members, hr, hm, hc⟩ := mergeEnum_changes h
    exact ⟨cs, hr, members, hm, hc⟩
  | composite c =>
    obtain ⟨cs, fs, hr, hm, hc⟩ := mergeComposite_changes h
    exact ⟨cs, hr, fs, hm, hc⟩

/-- A merge edits the declarations, and the imports after that. -/
lemma merge_eq_syncImports {m : Model} {f g : File} (h : m.merge f = .ok g) :
    ∃ ds needed, g = syncImports { f with decls := ds } needed := by
  cases m with
  | table t =>
    obtain ⟨f₁, i, fs, f₂, hc, -, hp, rfl⟩ := mergeTable_steps h
    rcases withContainer_cases hc with ⟨rfl, -⟩ | ⟨-, rfl, -⟩ <;>
      rcases placeMain_cases hp with ⟨j, -, rfl⟩ | ⟨-, i?, -, rfl⟩ <;> exact ⟨_, _, rfl⟩
  | enum e =>
    obtain ⟨members, located, -, -, -, rfl⟩ := mergeEnum_steps h
    rw [placeBlock_decls_only]
    cases located <;> exact ⟨_, _, rfl⟩
  | composite c =>
    obtain ⟨fs, f₂, -, rfl, ⟨i, -, rfl⟩ | ⟨-, rfl⟩⟩ := mergeComposite_steps h <;>
      exact ⟨_, _, rfl⟩

lemma mergeSource_eq_ok_iff {m : Model} {existing : Option String} {package out : String} :
    mergeSource m existing package = .ok out ↔
      ∃ f g, current existing package = .ok f ∧ m.merge f = .ok g ∧ g.print = out := by
  simp only [mergeSource, bind, Except.bind, pure, Except.pure]
  rcases hf : current existing package with x | f
  · simp
  rcases hg : m.merge f with x | g
  · simp [hg, Except.mapError]
  · simp [hg, Except.mapError]

/-- **What is written by hand survives a merge.** The file that is printed differs from the one
that was read in the imports and in the changes of the model alone. -/
theorem mergeSource_changes {m : Model} {existing : Option String} {package out : String}
    (h : mergeSource m existing package = .ok out) :
    ∃ f g, current existing package = .ok f ∧ m.merge f = .ok g ∧ out = g.print ∧
      ∃ cs, Rewrites cs f g ∧ ModelChanges cs m := by
  obtain ⟨f, g, hf, hg, rfl⟩ := mergeSource_eq_ok_iff.mp h
  exact ⟨f, g, hf, hg, rfl, merge_changes hg⟩

theorem mergeSource_changes_users :
    ∃ out, mergeSource (.table { name := "users", columns := [⟨"id", { name := "integer" }⟩] })
        (some "package m\n\n// a\nvar x = 1\n") "m" = .ok out ∧
      ∃ f g, current (some "package m\n\n// a\nvar x = 1\n") "m" = .ok f ∧
        mergeTable { name := "users", columns := [⟨"id", { name := "integer" }⟩] } f = .ok g ∧
        out = g.print ∧ ∃ cs, Rewrites cs f g ∧
          ModelChanges cs
            (.table { name := "users", columns := [⟨"id", { name := "integer" }⟩] }) := by
  have h : mergeSource (.table { name := "users", columns := [⟨"id", { name := "integer" }⟩] })
      (some "package m\n\n// a\nvar x = 1\n") "m" =
        .ok ("package m\n\n// a\nvar x = 1\n\ntype UsersExtension struct \x7b\n\x7d\n" ++
          "\ntype Users struct \x7b\n\tId int32\n\tUsersExtension\n\x7d\n") := by
    decide +kernel
  exact ⟨_, h, mergeSource_changes h⟩

end SchemaGo.Merge
