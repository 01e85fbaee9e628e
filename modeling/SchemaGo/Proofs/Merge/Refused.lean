import Mathlib
import SchemaGo.Proofs.Merge.Columns
import SchemaGo.Proofs.Merge.Names

/-!
When a merge fails. Besides a text that cannot be read, only names stand in its way: two columns or
two values would share one, or the file declares a name of the item as something else. In all other
cases there is a new text, and every place in the file that the merge goes to is one of its
declarations.
-/

namespace SchemaGo.Merge

open Go

variable {t : Table} {c : CompositeType} {e : EnumType} {m : Model} {f g : File}
  {name type : String}

/-! ### What stands in the way -/

/-- The shape of the first declaration of `name`. -/
def firstShape? (f : File) (name : String) : Option Shape :=
  (f.decls.find? (·.shape.declares name)).map (·.shape)

/-- The first declaration of `name` is not of the kind that belongs to it. -/
def Taken (f : File) (name : String) (kind : Shape → Prop) : Prop :=
  ∃ s ∈ firstShape? f name, ¬ kind s

def IsStruct : Shape → Prop
  | .struct _ _ => True
  | _ => False

def IsStringType : Shape → Prop
  | .named _ underlying => underlying = "string"
  | _ => False

/-- The fields of the container. A new one has none. -/
def containerFields (t : Table) (f : File) : List String :=
  match firstShape? f t.extensionName with
  | some (.struct _ fields) => fields
  | _ => []

/-- The item cannot be merged into the file. -/
def Refused (f : File) : Model → Prop
  | .table t =>
    Taken f t.extensionName IsStruct ∨
      ¬ ((undeclared t (containerFields t f)).map (fieldName ·.name)).Nodup ∨
      Taken f t.typeName IsStruct
  | .composite c => ¬ (c.columns.map (fieldName ·.name)).Nodup ∨ Taken f c.typeName IsStruct
  | .enum e =>
    ¬ (memberNames e).Nodup ∨ Taken f e.typeName IsStringType ∨
      ∃ name ∈ memberNames e, ∃ i ∈ f.indexOf? name, locateEnumBlock f e.typeName ≠ some i

section Decidable

instance : DecidablePred IsStruct
  | .struct _ _ => .isTrue trivial
  | .named _ _ | .consts _ | .other _ _ => .isFalse id

instance : DecidablePred IsStringType
  | .named _ underlying => inferInstanceAs (Decidable (underlying = "string"))
  | .struct _ _ | .consts _ | .other _ _ => .isFalse id

instance {kind : Shape → Prop} [DecidablePred kind] : Decidable (Taken f name kind) :=
  inferInstanceAs (Decidable (∃ s ∈ firstShape? f name, ¬ kind s))

instance : DecidablePred (Refused f)
  | .table _ => inferInstanceAs (Decidable (_ ∨ _ ∨ _))
  | .composite _ => inferInstanceAs (Decidable (_ ∨ _))
  | .enum _ => inferInstanceAs (Decidable (_ ∨ _ ∨ _))

end Decidable

/-- The places at which the merge reads or changes a declaration are there. What it inserts goes
between two declarations or to an end of the file, wherever it is told to go. -/
def InRange (f : File) : Model → Prop
  | .table t =>
    ∀ g i, withContainer t f = .ok (g, i) →
      i < g.decls.length ∧ ∀ j, locateStruct g t.typeName = .ok (some j) → j < g.decls.length
  | .composite c => ∀ i, locateStruct f c.typeName = .ok (some i) → i < f.decls.length
  | .enum e =>
    ∀ located, locateEnumType f e.typeName = .ok located →
      (withEnumType e.typeName located f).2 < (withEnumType e.typeName located f).1.decls.length ∧
        ∀ i, locateEnumBlock (typed e.typeName located f) e.typeName = some i →
          i < (typed e.typeName located f).decls.length

lemma exists_error_iff {ε α : Type} {x : Except ε α} : (∃ e, x = .error e) ↔ ¬ ∃ a, x = .ok a := by
  cases x <;> simp

/-! ### First declarations -/

lemma firstShape?_eq_find? : firstShape? f name = (f.find? name).map (·.2.shape) := by
  rcases hf : f.find? name with _ | ⟨i, d⟩
  · have hn := File.find?_eq_none.mp hf
    simpa [firstShape?] using hn
  · obtain ⟨l₁, l₂, hl, -, hd, hfirst⟩ := File.find?_eq_some hf
    have hnone : l₁.find? (·.shape.declares name) = none := by simpa using hfirst
    simp [firstShape?, hl, List.find?_append, hnone, hd]

/-- A declaration of other names does not matter for the first declaration of one. -/
lemma firstShape?_drop {l₁ l₂ : List Decl} {d : Decl} (hg : g.decls = l₁ ++ d :: l₂)
    (hf : f.decls = l₁ ++ l₂) (hd : d.shape.declares name = false) :
    firstShape? g name = firstShape? f name := by
  simp [firstShape?, hg, hf, List.find?_append, hd]

lemma find?_eq_some_iff_indexOf? {i : ℕ} :
    (∃ d, f.find? name = some (i, d)) ↔ f.indexOf? name = some i := by
  constructor
  · rintro ⟨d, h⟩
    rcases hi : f.indexOf? name with _ | j
    · simp [File.find?, hi] at h
    · obtain ⟨e, -, he⟩ : ∃ e, f.decls[j]? = some e ∧ (j, e) = (i, d) := by
        simpa [File.find?, hi, Option.bind_eq_some_iff] using h
      rw [(Prod.mk.inj he).1]
  · intro h
    have hlt : i < f.decls.length := (List.findIdx?_eq_some_iff_getElem.mp h).1
    exact ⟨f.decls[i], by simp [File.find?, h, hlt]⟩

lemma locateStruct_eq_ok_iff :
    (∃ i?, locateStruct f name = .ok i?) ↔ ¬ Taken f name IsStruct := by
  simp only [Taken, firstShape?_eq_find?, locateStruct]
  rcases f.find? name with _ | ⟨i, d⟩
  · simp
  · rcases hs : d.shape with _ | _ | _ | _ <;> simp [hs, IsStruct]

lemma locateEnumType_eq_ok_iff :
    (∃ i?, locateEnumType f name = .ok i?) ↔ ¬ Taken f name IsStringType := by
  simp only [Taken, firstShape?_eq_find?, locateEnumType]
  rcases f.find? name with _ | ⟨i, d⟩
  · simp
  · rcases hs : d.shape with _ | ⟨n, u⟩ | _ | _
    case named =>
      by_cases hu : u = "string" <;> simp [hs, hu, IsStringType]
    all_goals simp [hs, IsStringType]

/-! ### Tables -/

lemma withContainer_eq_ok_iff :
    (∃ g i, withContainer t f = .ok (g, i)) ↔ ¬ Taken f t.extensionName IsStruct := by
  rw [← locateStruct_eq_ok_iff]
  constructor
  · rintro ⟨g, i, h⟩
    rcases withContainer_cases h with ⟨-, hl⟩ | ⟨hl, -, -⟩
    · exact ⟨_, hl⟩
    · exact ⟨_, hl⟩
  · rintro ⟨_ | i, hl⟩
    · exact ⟨_, _, by simp only [withContainer, hl]; rfl⟩
    · exact ⟨f, i, by simp only [withContainer, hl]; rfl⟩

lemma placeMain_eq_ok_iff {fields : List Field} {i : ℕ}
    (hx : locateStruct f t.extensionName = .ok (some i)) :
    (∃ g, placeMain t fields f = .ok g) ↔ ¬ Taken f t.typeName IsStruct := by
  rw [← locateStruct_eq_ok_iff]
  constructor
  · rintro ⟨g, h⟩
    rcases placeMain_cases h with ⟨i, hl, -⟩ | ⟨hl, -⟩
    · exact ⟨_, hl⟩
    · exact ⟨_, hl⟩
  · rintro ⟨_ | j, hl⟩
    · exact ⟨_, by simp only [placeMain, hl, hx]; rfl⟩
    · exact ⟨_, by simp only [placeMain, hl]; rfl⟩

/-- With the container in it, the file has what the old one says of the table. -/
lemma withContainer_reads {i : ℕ} (h : withContainer t f = .ok (g, i)) :
    locateStruct g t.extensionName = .ok (some i) ∧ fieldsAt g i = containerFields t f ∧
      firstShape? g t.typeName = firstShape? f t.typeName := by
  obtain ⟨l₁, box, l₂, declared, hg, rfl, hbox, hfirst, hf⟩ := withContainer_located h
  refine ⟨locateStruct_split hg hbox hfirst, ?_, ?_⟩
  · have hnone : l₁.find? (·.shape.declares t.extensionName) = none := by simpa using hfirst
    rw [fieldsAt_split hg hbox]
    rcases hf with hf | ⟨hf, rfl, hl₂⟩
    · have hd : (Shape.struct t.extensionName declared).declares t.extensionName = true := by
        simp [Shape.declares, Shape.names]
      simp [containerFields, firstShape?, hf, List.find?_append, hnone, hbox, hd]
    · have hnone₂ : l₂.find? (·.shape.declares t.extensionName) = none := by simpa using hl₂
      obtain rfl : [] = declared := by simpa using hbox
      simp [containerFields, firstShape?, hf, List.find?_append, hnone, hnone₂]
  · rcases hf with hf | ⟨hf, rfl, -⟩
    · simp [firstShape?, hf, hg]
    · refine firstShape?_drop hg hf ?_
      simpa [Shape.declares, Shape.names] using (extensionName_ne_typeName t).symm

lemma mergeTable_eq_ok_iff : (∃ g, mergeTable t f = .ok g) ↔ ¬ Refused f (.table t) := by
  simp only [Refused, not_or, not_not]
  constructor
  · rintro ⟨g, h⟩
    obtain ⟨f₁, i, fs, f₂, hc, hm, hp, -⟩ := mergeTable_steps h
    obtain ⟨hx, hfields, hmain⟩ := withContainer_reads hc
    refine ⟨withContainer_eq_ok_iff.mp ⟨f₁, i, hc⟩, ?_, ?_⟩
    · rw [hfields] at hm
      exact (mainFields_eq_ok_iff.mp hm).1
    · have hfree := (placeMain_eq_ok_iff hx).mp ⟨f₂, hp⟩
      rwa [Taken, hmain] at hfree
  · rintro ⟨hbox, hcolumns, hmain⟩
    obtain ⟨f₁, i, hc⟩ := withContainer_eq_ok_iff.mpr hbox
    obtain ⟨hx, hfields, hsame⟩ := withContainer_reads hc
    rw [← hfields] at hcolumns
    obtain ⟨fs, hm⟩ : ∃ fs, mainFields t (fieldsAt f₁ i) = .ok fs :=
      ⟨_, mainFields_eq_ok_iff.mpr ⟨hcolumns, rfl⟩⟩
    obtain ⟨f₂, hp⟩ : ∃ f₂, placeMain t fs.fields f₁ = .ok f₂ := by
      rw [placeMain_eq_ok_iff hx, Taken, hsame]
      exact hmain
    exact ⟨syncImports f₂ fs.imports, by
      simp only [mergeTable, bind, Except.bind, pure, Except.pure, hc, hm, hp]⟩

/-! ### Composite types -/

lemma mergeComposite_eq_ok_iff :
    (∃ g, mergeComposite c f = .ok g) ↔ ¬ Refused f (.composite c) := by
  simp only [Refused, not_or, not_not]
  rw [← locateStruct_eq_ok_iff]
  constructor
  · rintro ⟨g, h⟩
    obtain ⟨fs, f₂, hfs, -, ⟨i, hl, -⟩ | ⟨hl, -⟩⟩ := mergeComposite_steps h
    · exact ⟨(columnFields_eq_ok_iff.mp hfs).1, _, hl⟩
    · exact ⟨(columnFields_eq_ok_iff.mp hfs).1, _, hl⟩
  · rintro ⟨hcolumns, i?, hl⟩
    have hfs := columnFields_eq_ok_iff.mpr ⟨hcolumns, rfl⟩
    cases i? <;>
      exact ⟨_, by simp only [mergeComposite, bind, Except.bind, pure, Except.pure, hfs, hl]; rfl⟩

/-! ### Enums -/

lemma exists_enumMembers_iff :
    (∃ members, enumMembers e.typeName e.values = .ok members) ↔ (memberNames e).Nodup :=
  ⟨fun ⟨_, h⟩ => (enumMembers_names h).2, fun h => ⟨_, enumMembers_eq_ok_iff.mpr ⟨h, rfl⟩⟩⟩

lemma checkMembers_eq_ok_iff {members : List Member} {block : Option ℕ} :
    checkMembers f block members = .ok () ↔
      ∀ name ∈ members.map (·.name), ∀ i ∈ f.indexOf? name, block = some i := by
  rw [checkMembers_eq_ok, List.forall_mem_map]
  refine forall₂_congr fun m _ => forall_congr' fun i => ?_
  rw [Option.mem_def, ← find?_eq_some_iff_indexOf?, forall_exists_index]

lemma mergeEnum_eq_ok_iff : (∃ g, mergeEnum e f = .ok g) ↔ ¬ Refused f (.enum e) := by
  simp only [Refused, not_or, not_not, not_exists, not_and]
  rw [← locateEnumType_eq_ok_iff, ← exists_enumMembers_iff]
  constructor
  · rintro ⟨g, h⟩
    obtain ⟨members, located, hm, hl, hfree, -⟩ := mergeEnum_steps h
    rw [checkMembers_eq_ok_iff, (enumMembers_names hm).1] at hfree
    exact ⟨⟨members, hm⟩, ⟨located, hl⟩, hfree⟩
  · rintro ⟨⟨members, hm⟩, ⟨located, hl⟩, hfree⟩
    rw [← (enumMembers_names hm).1, ← checkMembers_eq_ok_iff] at hfree
    exact ⟨_, by simp only [mergeEnum, bind, Except.bind, pure, Except.pure, hm, hl, hfree]; rfl⟩

/-! ### Places -/

lemma lt_of_locateStruct {i : ℕ} (h : locateStruct f name = .ok (some i)) : i < f.decls.length := by
  obtain ⟨l₁, d, l₂, fields, hf, rfl, -⟩ := locateStruct_eq_some h
  simp [hf]

lemma lt_of_locateEnumBlock {i : ℕ} (h : locateEnumBlock f type = some i) :
    i < f.decls.length := by
  obtain ⟨l₁, b, l₂, hf, rfl, -⟩ := locateEnumBlock_eq_some h
  simp [hf]

lemma withEnumType_lt {located : Option ℕ} (h : locateEnumType f type = .ok located) :
    (withEnumType type located f).2 < (withEnumType type located f).1.decls.length := by
  rcases located with _ | i
  · simp only [withEnumType, File.insert, File.place]
    rw [List.length_insertIdx_of_le_length (Nat.min_le_right _ _)]
    omega
  · obtain ⟨l₁, d, l₂, hf, rfl, -⟩ := locateEnumType_eq_some h
    simp [withEnumType, hf]

lemma inRange (m : Model) (f : File) : InRange f m := by
  cases m with
  | table t =>
    intro g i h
    exact ⟨lt_of_locateStruct (withContainer_reads h).1, fun j hj => lt_of_locateStruct hj⟩
  | composite c => exact fun i hi => lt_of_locateStruct hi
  | enum e =>
    intro located h
    exact ⟨withEnumType_lt h, fun i hi => lt_of_locateEnumBlock hi⟩

/-! ### Merging -/

lemma merge_eq_ok_iff : (∃ g, m.merge f = .ok g) ↔ ¬ Refused f m := by
  cases m with
  | table t => exact mergeTable_eq_ok_iff
  | composite c => exact mergeComposite_eq_ok_iff
  | enum e => exact mergeEnum_eq_ok_iff

/-- The text is there and is not one of a Go file. -/
def Unreadable (existing : Option String) : Prop :=
  ∃ source error, existing = some source ∧ File.read source = .error error

lemma current_eq_ok_iff {existing : Option String} {package : String} :
    (∃ f, current existing package = .ok f) ↔ ¬ Unreadable existing := by
  rcases existing with _ | source
  · simp [current, Unreadable]
  · rcases hr : File.read source with x | f <;> simp [current, Unreadable, hr, Except.mapError]

/-- **A merge fails exactly if the old text cannot be read, or a name stands in the way.** In all
other cases it gives a text, and the places that it goes to are there. -/
theorem mergeSource_fails_iff (m : Model) (existing : Option String) (package : String) :
    ((∃ error, mergeSource m existing package = .error error) ↔
      Unreadable existing ∨ ∃ f, current existing package = .ok f ∧ Refused f m) ∧
    ((∃ out, mergeSource m existing package = .ok out) ↔
      ∃ f, current existing package = .ok f ∧ ¬ Refused f m) ∧
    ∀ f, InRange f m := by
  have hok : (∃ out, mergeSource m existing package = .ok out) ↔
      ∃ f, current existing package = .ok f ∧ ¬ Refused f m := by
    constructor
    · rintro ⟨out, h⟩
      obtain ⟨f, g, hf, hg, -⟩ := mergeSource_eq_ok_iff.mp h
      exact ⟨f, hf, merge_eq_ok_iff.mp ⟨g, hg⟩⟩
    · rintro ⟨f, hf, hfree⟩
      obtain ⟨g, hg⟩ := merge_eq_ok_iff.mpr hfree
      exact ⟨g.print, mergeSource_eq_ok_iff.mpr ⟨f, g, hf, hg, rfl⟩⟩
  refine ⟨?_, hok, inRange m⟩
  rw [exists_error_iff, hok]
  constructor
  · intro h
    by_cases hr : Unreadable existing
    · exact .inl hr
    · obtain ⟨f, hf⟩ := current_eq_ok_iff.mpr hr
      exact .inr ⟨f, hf, by_contra fun hfree => h ⟨f, hf, hfree⟩⟩
  · rintro (hr | ⟨f, hf, hrefused⟩) ⟨f', hf', hfree⟩
    · exact current_eq_ok_iff.mp ⟨f', hf'⟩ hr
    · obtain rfl : f = f' := Except.ok.inj (hf.symm.trans hf')
      exact hfree hrefused

/-- A file in which a name of the table `users` is taken. -/
def countedUsers : File :=
  { File.empty "models" with
    decls := [{ leading := "", body := "type UsersExtension int", blankBefore := true,
                shape := .named "UsersExtension" "int", qualifiers := [], managed := false }] }

theorem mergeSource_fails_countedUsers :
    (∃ error, mergeSource (.table users)
        (some "package models\n\ntype UsersExtension int\n") "models" = .error error) ∧
      ∃ out, mergeSource (.composite { name := "user", columns := users.columns })
        (some "package models\n\ntype UsersExtension int\n") "models" = .ok out := by
  have hf : current (some "package models\n\ntype UsersExtension int\n") "models" =
      .ok countedUsers := by decide +kernel
  exact ⟨(mergeSource_fails_iff _ _ _).1.mpr (.inr ⟨countedUsers, hf, by decide⟩),
    (mergeSource_fails_iff _ _ _).2.1.mpr ⟨countedUsers, hf, by decide⟩⟩

end SchemaGo.Merge
