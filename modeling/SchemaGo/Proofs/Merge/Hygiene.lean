import Mathlib
import SchemaGo.Proofs.Merge.Columns

/-!
The imports that come and go with a merge. They hang on the types of the columns that get a field
in the generated struct, and on the names that qualify others in what the merge preserves.
-/

namespace SchemaGo.Merge

open Go

variable {f g : File} {m : Model} {columns : List Column} {cs : List Change}

/-! ### Emitted columns -/

/-- The fields of the generated struct, where `columns` are emitted. -/
def Model.fields (columns : List Column) : Model → List Field
  | .table t => columns.map columnField ++ [.embedded t.extensionName]
  | .composite _ => columns.map columnField
  | .enum _ => []

/-- The changes of a merge that emits `columns`. Of the columns of a table, those that have a field
in the container are hidden. An enum has no columns. -/
inductive Emits (f : File) : Model → List Column → List Change → Prop
  | table (t : Table) (box : Decl) (declared : List String) (cs : List Change)
      (container : Keeps t box declared f.decls)
      (changes : TableChanges t ((Model.table t).fields (undeclared t declared)) cs) :
      Emits f (.table t) (undeclared t declared) cs
  | composite (c : CompositeType) (cs : List Change)
      (changes : CompositeChanges c.typeName ((Model.composite c).fields c.columns) cs) :
      Emits f (.composite c) c.columns cs
  | enum (e : EnumType) (members : List Member) (cs : List Change)
      (values : enumMembers e.typeName e.values = .ok members)
      (changes : EnumChanges e.typeName members cs) : Emits f (.enum e) [] cs

lemma placeMain_decls_only {t : Table} {fields : List Field} (h : placeMain t fields f = .ok g) :
    g = { f with decls := g.decls } := by
  rcases placeMain_cases h with ⟨i, -, rfl⟩ | ⟨-, i?, -, rfl⟩ <;> rfl

lemma mergeTable_emits {t : Table} (h : mergeTable t f = .ok g)
    (hun : ∀ d ∈ f.decls, d.managed = false) :
    ∃ columns cs, Emits f (.table t) columns cs ∧ Rewrites cs f g ∧
      g = syncImports { f with decls := g.decls } (columnImports columns) := by
  obtain ⟨f₁, i, fs, f₂, hc, hm, hp, rfl⟩ := mergeTable_steps h
  obtain ⟨box, hkeeps, -, -, hf₁⟩ := withContainer_keeps hc hun
  obtain ⟨cs, hr, ht⟩ := placeMain_changes hc hp
  obtain ⟨-, rfl⟩ := mainFields_eq_ok_iff.mp hm
  have hf₂ : f₂ = { f with decls := f₂.decls } := by
    rw [placeMain_decls_only hp, hf₁]
  refine ⟨_, cs, .table t box _ cs hkeeps ht, hr.syncImports _, ?_⟩
  rw [syncImports_decls, ← hf₂]

lemma mergeComposite_emits {c : CompositeType} (h : mergeComposite c f = .ok g) :
    ∃ columns cs, Emits f (.composite c) columns cs ∧ Rewrites cs f g ∧
      g = syncImports { f with decls := g.decls } (columnImports columns) := by
  obtain ⟨cs, fs, hr, hfs, hcs⟩ := mergeComposite_changes h
  obtain ⟨fs', f₂, hfs', rfl, hf₂⟩ := mergeComposite_steps h
  obtain ⟨-, rfl⟩ := columnFields_eq_ok_iff.mp hfs
  obtain ⟨-, rfl⟩ := columnFields_eq_ok_iff.mp hfs'
  have hf₂ : f₂ = { f with decls := f₂.decls } := by
    rcases hf₂ with ⟨i, -, rfl⟩ | ⟨-, rfl⟩ <;> rfl
  refine ⟨_, cs, .composite c cs hcs, hr, ?_⟩
  rw [syncImports_decls, ← hf₂]

lemma mergeEnum_emits {e : EnumType} (h : mergeEnum e f = .ok g) :
    ∃ columns cs, Emits f (.enum e) columns cs ∧ Rewrites cs f g ∧
      g = syncImports { f with decls := g.decls } (columnImports columns) := by
  obtain ⟨cs, members, hr, hm, hcs⟩ := mergeEnum_changes h
  obtain ⟨members', located, -, -, -, rfl⟩ := mergeEnum_steps h
  refine ⟨[], cs, .enum e members cs hm hcs, hr, ?_⟩
  rw [syncImports_decls, placeBlock_decls_only]
  cases located <;> rfl

/-- A merge edits the declarations, and then settles the imports by the columns that it emits. -/
lemma merge_emits (h : m.merge f = .ok g) (hun : ∀ d ∈ f.decls, d.managed = false) :
    ∃ columns cs, Emits f m columns cs ∧ Rewrites cs f g ∧
      g = syncImports { f with decls := g.decls } (columnImports columns) := by
  cases m with
  | table t => exact mergeTable_emits h hun
  | composite c => exact mergeComposite_emits h
  | enum e => exact mergeEnum_emits h

/-! ### What is preserved -/

/-- The declarations that are neither generated anew nor owned by the generator. -/
def preserved (cs : List Change) : List Decl :=
  cs.filterMap fun
    | .kept d false => some d
    | _ => none

lemma mem_preserved {d : Decl} : d ∈ preserved cs ↔ .kept d false ∈ cs := by
  simp only [preserved, List.mem_filterMap]
  constructor
  · rintro ⟨c, hc, hd⟩
    split at hd
    · obtain rfl := Option.some.inj hd
      exact hc
    · simp at hd
  · exact fun hd => ⟨_, hd, rfl⟩

/-! #### Insertions -/

section

variable {d : Decl}

@[simp] lemma inserted_mem_keep {ds : List Decl} : .inserted d ∈ keep ds ↔ False := by
  simp [keep]

@[simp] lemma inserted_eq_blockChange {type : String} {members : List Member} {b : Decl} :
    .inserted d = blockChange type members b ↔ False := by
  unfold blockChange
  split <;> simp

lemma qualifiers_of_mem_newBlock {type : String} {members : List Member}
    (hd : .inserted d ∈ newBlock type members) : d.qualifiers = [] := by
  unfold newBlock at hd
  split at hd
  · simp at hd
  · obtain rfl := Change.inserted.inj (List.mem_singleton.mp hd)
    rfl

lemma EnumChanges.qualifiers_of_inserted {type : String} {members : List Member}
    (h : EnumChanges type members cs) (hd : .inserted d ∈ cs) : d.qualifiers = [] := by
  cases h with
  | noBlock l₁ l₂ c typed =>
    simp only [List.mem_append, List.mem_cons, inserted_mem_keep, false_or, or_false] at hd
    rcases hd with rfl | hd
    · cases typed
      rfl
    · exact qualifiers_of_mem_newBlock hd
  | insertedType l₁ l₂ b =>
    obtain rfl : d = enumTypeDecl type := by simpa using hd
    rfl
  | blockBehind | blockBefore => simp at hd

/-- What is inserted has not been read, so nothing is known to qualify a name in it. -/
lemma Emits.qualifiers_of_inserted (h : Emits f m columns cs) (hd : .inserted d ∈ cs) :
    d.qualifiers = [] := by
  cases h with
  | table t box declared cs container changes =>
    set fields := (Model.table t).fields (undeclared t declared)
    have hd : d = Merge.container t ∨
        d = .generated (renderStruct t.typeName fields) (structShape t.typeName fields) := by
      cases changes <;> simp_all
    rcases hd with rfl | rfl <;> rfl
  | composite c cs changes =>
    set fields := (Model.composite c).fields c.columns
    have hd : d = .generated (renderStruct c.typeName fields) (structShape c.typeName fields) := by
      cases changes <;> simp_all
    rw [hd]
    rfl
  | enum e members cs values changes => exact changes.qualifiers_of_inserted hd

end

/-- What qualifies a name in the new file, and is not the generator's, does so in a declaration that
is preserved. -/
lemma Emits.mem_preservedQualifiers (h : Emits f m columns cs) (hr : Rewrites cs f g) {q : String} :
    q ∈ g.preservedQualifiers ↔ ∃ d ∈ preserved cs, q ∈ d.qualifiers := by
  simp only [File.preservedQualifiers, ← hr.after, List.mem_flatMap, List.mem_filter,
    List.mem_filterMap, mem_preserved]
  constructor
  · rintro ⟨d, ⟨⟨c, hc, hd⟩, hun⟩, hq⟩
    cases c with
    | kept e managed =>
      obtain rfl := Option.some.inj hd
      obtain rfl : managed = false := by simpa using hun
      exact ⟨e, hc, hq⟩
    | replaced e body shape =>
      obtain rfl := Option.some.inj hd
      simp at hun
    | dropped e => simp at hd
    | inserted e =>
      obtain rfl := Option.some.inj hd
      simp [h.qualifiers_of_inserted hc] at hq
  · rintro ⟨d, hd, hq⟩
    exact ⟨_, ⟨⟨_, hd, rfl⟩, rfl⟩, hq⟩

/-! ### Imports in use -/

/-- Something that is preserved refers to the package of `path` by the name that an entry of the
file gives it. -/
def IsReferredTo (f : File) (cs : List Change) (path : String) : Prop :=
  ∃ s ∈ f.imports, s.path = path ∧ ∃ d ∈ preserved cs, s.localName ∈ d.qualifiers

/-- The package of `path` is needed by a column that is emitted, or referred to. -/
def IsUsed (f : File) (columns : List Column) (cs : List Change) (path : String) : Prop :=
  path ∈ columnImports columns ∨ IsReferredTo f cs path

lemma Emits.isKept_iff (h : Emits f m columns cs) (hr : Rewrites cs f g) {path : String} :
    isKept { f with decls := g.decls } (columnImports columns) path = true ↔
      IsUsed f columns cs path := by
  rw [isKept, Bool.or_eq_true, List.contains_iff_mem, isReferenced_iff, IsUsed, IsReferredTo]
  have hq : ∀ q, q ∈ File.preservedQualifiers { f with decls := g.decls } ↔
      ∃ d ∈ preserved cs, q ∈ d.qualifiers := fun q => h.mem_preservedQualifiers hr
  simp only [hq]

/-- **Imports are exact.** After a merge a managed package is imported if and only if a column that
is emitted needs it, or something that is preserved refers to it by the name that the file gave it.
All other imports stay. What stays is as it was, in its order, and behind it stand plain imports of
the packages that are needed and were missing. -/
theorem merge_imports {existing : Option String} {package : String}
    (hf : current existing package = .ok f) (hg : m.merge f = .ok g) :
    ∃ columns cs, Emits f m columns cs ∧ Rewrites cs f g ∧
      (∀ path ∈ managedImports, g.hasImport path = true ↔ IsUsed f columns cs path) ∧
      g.imports =
        f.imports.filter (fun s => !managedImports.contains s.path || g.hasImport s.path) ++
          (managedImports.filter fun path =>
            (columnImports columns).contains path && !f.hasImport path).map .plain := by
  obtain ⟨columns, cs, he, hr, hsync⟩ := merge_emits hg (current_unmanaged hf)
  have hhas : ∀ path ∈ managedImports,
      g.hasImport path = isKept { f with decls := g.decls } (columnImports columns) path := by
    intro path hp
    conv_lhs => rw [hsync]
    exact hasImport_syncImports hp
  refine ⟨columns, cs, he, hr, fun path hp => by rw [hhas path hp, he.isKept_iff hr], ?_⟩
  conv_lhs => rw [hsync, imports_syncImports]
  congr 1
  · refine List.filter_congr fun s _ => ?_
    by_cases hs : s.path ∈ managedImports
    · rw [hhas _ hs]
    · simp [hs]
  · -- what is referred to is imported already
    congr 1
    refine List.filter_congr fun path _ => ?_
    by_cases hi : f.hasImport path = true
    · have hi' : File.hasImport { f with decls := g.decls } path = true := hi
      simp [hi, hi']
    · have hno : isReferenced { f with decls := g.decls } path = false := by
        rw [Bool.eq_false_iff, Ne, isReferenced_iff]
        rintro ⟨s, hs, hp, -⟩
        exact hi (hasImport_iff.mpr ⟨s, hs, hp⟩)
      rw [isKept, hno, Bool.or_false]
      rfl

/-- A table with a column that is hidden by the container in `profilesFile`, and one that is not. -/
def profiles : Table :=
  { name := "profiles", columns := [⟨"data", { name := "jsonb" }⟩, ⟨"born", { name := "date" }⟩] }

/-- A file that imports a package for a column that it hides. -/
def profilesFile : String :=
  "package models\n\nimport \"encoding/json\"\n\ntype ProfilesExtension struct \x7b\n" ++
    "\tData []byte\n\x7d\n"

theorem merge_imports_profiles :
    ∃ f g, current (some profilesFile) "models" = .ok f ∧ (Model.table profiles).merge f = .ok g ∧
      ∃ columns cs, Emits f (.table profiles) columns cs ∧ Rewrites cs f g ∧
        (∀ path ∈ managedImports, g.hasImport path = true ↔ IsUsed f columns cs path) ∧
        g.imports =
          f.imports.filter (fun s => !managedImports.contains s.path || g.hasImport s.path) ++
            (managedImports.filter fun path =>
              (columnImports columns).contains path && !f.hasImport path).map .plain := by
  have h : mergeSource (.table profiles) (some profilesFile) "models" =
      .ok ("package models\n\nimport \"time\"\n\ntype ProfilesExtension struct \x7b\n" ++
        "\tData []byte\n\x7d\n\ntype Profiles struct \x7b\n\tBorn time.Time\n" ++
        "\tProfilesExtension\n\x7d\n") := by
    decide +kernel
  obtain ⟨f, g, hf, hg, -⟩ := mergeSource_eq_ok_iff.mp h
  exact ⟨f, g, hf, hg, merge_imports hf hg⟩

end SchemaGo.Merge
