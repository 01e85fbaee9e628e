import Mathlib
import SchemaGo.Proofs.Merge.Names
import SchemaGo.Proofs.Naming

/-!
Names that are declared once. A merge puts the names of its item among those of the old file, where
they are not there already, and takes out the names of the old constants of an enum.
-/

namespace SchemaGo.Merge

open Go Naming

variable {f g : File} {m : Model} {n name type : String} {ns ms : List String} {d : Decl}

/-! ### Lists of names -/

/-- No name is there twice, the blank aside, and the commas that count as names of constants. -/
def NamesUnique (ns : List String) : Prop := ∀ n, n ≠ "_" → n ≠ "," → ns.count n ≤ 1

lemma namesUnique_iff : NamesUnique ns ↔ (ns.filter fun n => n ≠ "_" ∧ n ≠ ",").Nodup := by
  rw [List.nodup_iff_count_le_one]
  refine forall_congr' fun n => ?_
  by_cases hn : n ≠ "_" ∧ n ≠ ","
  · rw [List.count_filter (by simpa using hn)]
    exact ⟨fun h => h hn.1 hn.2, fun h _ _ => h⟩
  · have hzero : (ns.filter fun n => n ≠ "_" ∧ n ≠ ",").count n = 0 :=
      List.count_eq_zero.mpr fun hmem => hn (by simpa using (List.mem_filter.mp hmem).2)
    exact ⟨fun _ => by omega, fun _ hb hc => absurd ⟨hb, hc⟩ hn⟩

instance : Decidable (NamesUnique ns) := decidable_of_iff _ namesUnique_iff.symm

lemma NamesUnique.perm (h : NamesUnique ns) (hp : ms.Perm ns) : NamesUnique ms :=
  fun n hb hc => hp.count_eq n ▸ h n hb hc

lemma NamesUnique.insert (h : NamesUnique ns) (name : String) : NamesUnique (ns.insert name) := by
  intro n hb hc
  have hn := h n hb hc
  rw [List.count_insert]
  split <;> omega

section Exchange

variable {old new : List String} (h : (ms ++ old).Perm (new ++ ns))

include h

/-- What comes to the names is no longer there in `old`, or was not there at all. -/
lemma NamesUnique.exchange (hu : NamesUnique ns) (hnew : new.Nodup)
    (hold : ∀ n ∈ new, n ∈ ns → n ∈ old) : NamesUnique ms := by
  intro n hb hc
  have hn := hu n hb hc
  have hcount := h.count_eq n
  rw [List.count_append, List.count_append] at hcount
  by_cases hmem : n ∈ new
  · have hone := List.count_eq_one_of_mem hnew hmem
    by_cases hns : n ∈ ns
    · have hpos := List.count_pos_iff.mpr (hold n hmem hns)
      omega
    · have hzero := List.count_eq_zero.mpr hns
      omega
  · have hzero := List.count_eq_zero.mpr hmem
    omega

lemma mem_of_exchange : ∀ n ∈ ns, n ∉ old → n ∈ ms := by
  intro n hn ho
  have hmem := h.mem_iff.mpr (List.mem_append_right new hn)
  exact (List.mem_append.mp hmem).resolve_right ho

lemma mem_of_exchange_new (hle : ∀ n, old.count n ≤ ns.count n) : ∀ n ∈ new, n ∈ ms := by
  intro n hn
  have hpos := List.count_pos_iff.mpr hn
  have hcount := h.count_eq n
  have hn := hle n
  rw [List.count_append, List.count_append] at hcount
  exact List.count_pos_iff.mp (by omega)

end Exchange

/-! ### Names of an item -/

lemma nameChar_append {s t : String} (hs : ∀ c ∈ s.toList, isNameChar c = true)
    (ht : ∀ c ∈ t.toList, isNameChar c = true) : ∀ c ∈ (s ++ t).toList, isNameChar c = true := by
  intro c hc
  rw [String.toList_append, List.mem_append] at hc
  exact hc.elim (hs c) (ht c)

lemma names_nameChar (hn : n ∈ m.names) : ∀ c ∈ n.toList, isNameChar c = true := by
  cases m with
  | table t =>
    rcases List.mem_pair.mp hn with rfl | rfl
    · exact nameChar_append (pascalCase_nameChar _) (List.all_eq_true.mp (by decide))
    · exact pascalCase_nameChar _
  | composite c =>
    obtain rfl := List.mem_singleton.mp hn
    exact pascalCase_nameChar _
  | enum e =>
    rcases List.mem_cons.mp hn with rfl | hn
    · exact pascalCase_nameChar _
    · obtain ⟨i, hi, rfl⟩ := List.mem_mapIdx.mp hn
      obtain ⟨suffix, hs, hchars⟩ := exists_memberName_eq e.typeName i e.values[i]
      rw [hs]
      refine nameChar_append (pascalCase_nameChar _) fun c hc => ?_
      exact (hchars c hc).elim (pascalCase_nameChar _ c) isNameChar_of_isAlphanum

/-- Uniqueness is about all names that are made for an item. -/
lemma names_ne (hn : n ∈ m.names) : n ≠ "_" ∧ n ≠ "," := by
  have hchars := names_nameChar hn
  constructor <;> rintro rfl
  · exact absurd (hchars '_' (by simp)) (by decide)
  · exact absurd (hchars ',' (by simp)) (by decide)

/-! ### Names after an edit -/

lemma not_mem_namesOf (h : ∀ d ∈ f.decls, d.shape.declares n = false) : n ∉ namesOf f := by
  intro hmem
  obtain ⟨d, hd, hn⟩ := List.mem_flatMap.mp hmem
  have hno := h d hd
  simp [Shape.declares, hn] at hno

lemma namesOf_split {l₁ l₂ : List Decl} (hf : f.decls = l₁ ++ d :: l₂) :
    (namesOf f).Perm (d.shape.names ++ (l₁ ++ l₂).flatMap (·.shape.names)) := by
  rw [namesOf, hf, List.flatMap_append, List.flatMap_cons, List.flatMap_append]
  exact List.perm_append_comm_assoc _ _ _

lemma mem_namesOf_of_split {l₁ l₂ : List Decl} (hf : f.decls = l₁ ++ d :: l₂)
    (hn : n ∈ d.shape.names) : n ∈ namesOf f :=
  (namesOf_split hf).mem_iff.mpr (List.mem_append_left _ hn)

lemma namesOf_insert (f : File) (i : ℕ) (d : Decl) :
    (namesOf (f.insert i d)).Perm (d.shape.names ++ namesOf f) :=
  (List.perm_insertIdx d f.decls (Nat.min_le_right i _)).flatMap_right _

lemma shapes_setManaged (f : File) (i : ℕ) (managed : Bool) :
    (f.setManaged i managed).decls.map (·.shape) = f.decls.map (·.shape) := by
  refine List.ext_getElem? fun j => ?_
  rw [File.setManaged, List.getElem?_map, List.getElem?_map, List.getElem?_modify]
  cases f.decls[j]? with
  | none => rfl
  | some d => by_cases hij : i = j <;> simp [hij]

lemma namesOf_setManaged (f : File) (i : ℕ) (managed : Bool) :
    namesOf (f.setManaged i managed) = namesOf f := by
  have h : ∀ f : File, namesOf f = (f.decls.map (·.shape)).flatMap Shape.names := fun f => by
    rw [namesOf, List.flatMap_map]
  rw [h, h, shapes_setManaged]

lemma namesOf_syncImports (f : File) (needed : List String) :
    namesOf (syncImports f needed) = namesOf f := by
  rw [namesOf, syncImports_decls, namesOf]

/-- What is new to a file comes to the names that it has. -/
lemma namesOf_insert_new (hd : d.shape.names = [name])
    (hn : ∀ d ∈ f.decls, d.shape.declares name = false) (i : ℕ) :
    (namesOf (f.insert i d)).Perm ((namesOf f).insert name) := by
  rw [List.insert_of_not_mem (not_mem_namesOf hn), ← List.singleton_append, ← hd]
  exact namesOf_insert f i d

/-- A struct that takes the place of one of its name changes no names. -/
lemma namesOf_replaceStruct {i : ℕ} (h : locateStruct f name = .ok (some i)) (body : String)
    (fields : List Field) :
    namesOf (f.replace i body (structShape name fields)) = (namesOf f).insert name := by
  obtain ⟨l₁, d, l₂, old, hf, rfl, hd, -⟩ := locateStruct_eq_some h
  have hmem : name ∈ namesOf f := mem_namesOf_of_split hf (by simp [hd, Shape.names])
  rw [List.insert_of_mem hmem, namesOf, File.replace_split hf, namesOf, hf]
  simp [hd, structShape, Shape.names]

/-! ### Structs -/

section Structs

variable {t : Table}

lemma withContainer_names {i : ℕ} (h : withContainer t f = .ok (g, i)) :
    (namesOf g).Perm ((namesOf f).insert t.extensionName) := by
  rcases withContainer_cases h with ⟨rfl, hl⟩ | ⟨hl, rfl, -⟩
  · obtain ⟨l₁, d, l₂, old, hf, -, hd, -⟩ := locateStruct_eq_some hl
    have hmem : t.extensionName ∈ namesOf g := mem_namesOf_of_split hf (by simp [hd, Shape.names])
    rw [List.insert_of_mem hmem]
  · exact namesOf_insert_new rfl (locateStruct_eq_none hl) _

lemma placeMain_names {fields : List Field} (h : placeMain t fields f = .ok g) :
    (namesOf g).Perm ((namesOf f).insert t.typeName) := by
  rcases placeMain_cases h with ⟨i, hl, rfl⟩ | ⟨hl, i?, -, rfl⟩
  · rw [namesOf_replaceStruct hl]
  · exact namesOf_insert_new rfl (locateStruct_eq_none hl) _

lemma mergeTable_names (h : mergeTable t f = .ok g) :
    (namesOf g).Perm (((namesOf f).insert t.extensionName).insert t.typeName) := by
  obtain ⟨f₁, i, fs, f₂, hc, -, hp, rfl⟩ := mergeTable_steps h
  rw [namesOf_syncImports]
  exact (placeMain_names hp).trans ((withContainer_names hc).insert t.typeName)

lemma mergeComposite_names {c : CompositeType} (h : mergeComposite c f = .ok g) :
    (namesOf g).Perm ((namesOf f).insert c.typeName) := by
  obtain ⟨fs, f₂, -, rfl, ⟨i, hl, rfl⟩ | ⟨hl, rfl⟩⟩ := mergeComposite_steps h
  · rw [namesOf_syncImports, namesOf_replaceStruct hl]
  · rw [namesOf_syncImports]
    exact namesOf_insert_new rfl (locateStruct_eq_none hl) _

end Structs

/-! ### Enums -/

section Enums

variable {members : List Member} {located : Option ℕ} {e : EnumType}

/-- The names in the block of an enum, if a block is found. -/
def blockNames (type : String) (f : File) : List String :=
  ((locateEnumBlock f type).bind (f.decls[·]?)).elim [] (·.shape.names)

lemma blockNames_eq (type : String) (f : File) : blockNames type f =
    ((f.decls.map (·.shape)).find? (isEnumBlock type)).elim [] Shape.names := by
  have hfind : (locateEnumBlock f type).bind (f.decls[·]?) =
      f.decls.find? (isEnumBlock type ∘ (·.shape)) :=
    List.find?_eq_bind_findIdx?_getElem?.symm
  rw [blockNames, hfind, List.find?_map]
  cases f.decls.find? (isEnumBlock type ∘ (·.shape)) <;> rfl

lemma blockNames_of_none (h : locateEnumBlock f type = none) : blockNames type f = [] := by
  simp [blockNames, h]

lemma blockNames_of_split {l₁ l₂ : List Decl} {b : Decl} (hf : f.decls = l₁ ++ b :: l₂)
    (h : locateEnumBlock f type = some l₁.length) : blockNames type f = b.shape.names := by
  simp [blockNames, h, hf]

lemma count_blockNames_le (type : String) (f : File) (n : String) :
    (blockNames type f).count n ≤ (namesOf f).count n := by
  rcases hl : locateEnumBlock f type with _ | i
  · simp [blockNames_of_none hl]
  · obtain ⟨l₁, b, l₂, hf, rfl, -, -⟩ := locateEnumBlock_eq_some hl
    rw [blockNames_of_split hf hl, (namesOf_split hf).count_eq, List.count_append]
    omega

lemma blockNames_setManaged (type : String) (f : File) (i : ℕ) (managed : Bool) :
    blockNames type (f.setManaged i managed) = blockNames type f := by
  rw [blockNames_eq, shapes_setManaged, blockNames_eq]

lemma blockNames_insert (hd : isEnumBlock type d.shape = false) (f : File) (i : ℕ) :
    blockNames type (f.insert i d) = blockNames type f := by
  obtain ⟨l₁, l₂, hf, -, hg⟩ := File.insert_decls (Nat.min_le_right i f.decls.length) d
  have hplace : f.insert (min i f.decls.length) d = f.insert i d := by
    simp [File.insert, File.place]
  rw [hplace] at hg
  rw [blockNames_eq, hg, blockNames_eq, hf]
  simp [List.find?_append, hd]

/-- The type comes to the names, and the block stays the same. -/
lemma typed_names (h : locateEnumType f type = .ok located) :
    (namesOf (typed type located f)).Perm ((namesOf f).insert type) ∧
      blockNames type (typed type located f) = blockNames type f := by
  rw [typed, namesOf_setManaged, blockNames_setManaged]
  rcases located with _ | i
  · exact ⟨namesOf_insert_new rfl (locateEnumType_eq_none h) _, blockNames_insert rfl f _⟩
  · obtain ⟨l₁, d, l₂, hf, -, hd, -⟩ := locateEnumType_eq_some h
    have hmem : type ∈ namesOf f := mem_namesOf_of_split hf (by simp [hd, Shape.names])
    rw [List.insert_of_mem hmem]
    exact ⟨.refl _, rfl⟩

lemma blockChange_names (b : Decl) :
    ((blockChange type members b).after.toList).flatMap (·.shape.names) =
      members.map (·.name) := by
  unfold blockChange
  split
  · simp_all
  · simp [names_constsShape]

/-- The members come to the names, in place of those in the old block. -/
lemma placeBlock_names (type : String) (members : List Member) (i : ℕ) (f : File) :
    (namesOf (placeBlock type members i f) ++ blockNames type f).Perm
      (members.map (·.name) ++ namesOf f) := by
  rcases hl : locateEnumBlock f type with _ | j
  · rw [blockNames_of_none hl, List.append_nil]
    simp only [placeBlock, hl]
    split
    · simp_all
    · have h := namesOf_insert f (i + 1)
        (.generated (renderConsts type members) (constsShape type members))
      rwa [Decl.generated, names_constsShape] at h
  · obtain ⟨l₁, b, l₂, hf, rfl, hb, hfirst⟩ := locateEnumBlock_eq_some hl
    rw [blockNames_of_split hf hl, namesOf, placeBlock_old hf hb hfirst, namesOf, hf]
    rw [List.perm_iff_count]
    intro n
    simp only [List.flatMap_append, List.flatMap_cons, List.count_append, blockChange_names]
    omega

lemma mergeEnum_names (h : mergeEnum e f = .ok g) :
    (namesOf g ++ blockNames e.typeName f).Perm
      (memberNames e ++ (namesOf f).insert e.typeName) := by
  obtain ⟨members, located, hm, hl, -, rfl⟩ := mergeEnum_steps h
  obtain ⟨htyped, hblock⟩ := typed_names hl
  have hplaced := placeBlock_names e.typeName members (withEnumType e.typeName located f).2
    (typed e.typeName located f)
  rw [hblock, (enumMembers_names hm).1] at hplaced
  rw [namesOf_syncImports]
  exact hplaced.trans (htyped.append_left _)

/-- A member that is declared already is declared in the block. -/
lemma mem_blockNames_of_checkMembers
    (h : checkMembers f (locateEnumBlock f type) members = .ok ()) {x : Member}
    (hx : x ∈ members) (hn : x.name ∈ namesOf f) : x.name ∈ blockNames type f := by
  rcases hfind : f.find? x.name with _ | ⟨i, d⟩
  · exact absurd hn (not_mem_namesOf (File.find?_eq_none.mp hfind))
  · obtain ⟨l₁, l₂, hf, rfl, hd, -⟩ := File.find?_eq_some hfind
    rw [blockNames_of_split hf (checkMembers_eq_ok.mp h x hx _ d hfind)]
    simpa [Shape.declares] using hd

/-- The block does not declare the type, which would then be declared twice. -/
lemma type_not_mem_blockNames (h : locateEnumType f type = .ok located)
    (hu : (namesOf f).count type ≤ 1) : type ∉ blockNames type f := by
  intro hmem
  rcases hl : locateEnumBlock f type with _ | i
  · simp [blockNames_of_none hl] at hmem
  obtain ⟨l₁, b, l₂, hf, rfl, hb, -⟩ := locateEnumBlock_eq_some hl
  rw [blockNames_of_split hf hl] at hmem
  rcases located with _ | i
  · exact not_mem_namesOf (locateEnumType_eq_none h) (mem_namesOf_of_split hf hmem)
  · obtain ⟨k₁, d, k₂, hk, -, hd, -⟩ := locateEnumType_eq_some h
    have hne : b ≠ d := by
      rintro rfl
      simp [hd] at hb
    have hother : b ∈ k₁ ++ k₂ := by
      have hb : b ∈ k₁ ++ d :: k₂ := by simp [← hk, hf]
      simpa [hne] using hb
    have hpos : 0 < ((k₁ ++ k₂).flatMap (·.shape.names)).count type :=
      List.count_pos_iff.mpr (List.mem_flatMap.mpr ⟨b, hother, hmem⟩)
    rw [(namesOf_split hk).count_eq, List.count_append, hd, Shape.names,
      List.count_singleton_self] at hu
    omega

lemma mergeEnum_unique (h : mergeEnum e f = .ok g) (hu : NamesUnique (namesOf f)) :
    NamesUnique (namesOf g) ∧ (∀ n ∈ (Model.enum e).names, n ∈ namesOf g) ∧
      ∀ n ∈ namesOf f, n ∉ blockNames e.typeName f → n ∈ namesOf g := by
  obtain ⟨members, located, hm, hl, hcheck, -⟩ := mergeEnum_steps h
  obtain ⟨hnames, hnodup⟩ := enumMembers_names hm
  obtain ⟨hb, hc⟩ := names_ne (m := .enum e) (List.mem_cons_self ..)
  have htype := type_not_mem_blockNames hl (hu _ hb hc)
  have hmember : ∀ n ∈ memberNames e, n ∈ (namesOf f).insert e.typeName →
      n ∈ blockNames e.typeName f := by
    intro n hn hmem
    rw [← hnames] at hn
    obtain ⟨x, hx, rfl⟩ := List.mem_map.mp hn
    have hf := (List.mem_insert_iff.mp hmem).resolve_left (ne_of_enumMembers hm hx)
    exact mem_blockNames_of_checkMembers hcheck hx hf
  have hblock : ∀ n, (blockNames e.typeName f).count n ≤
      ((namesOf f).insert e.typeName).count n := fun n => by
    have hle := count_blockNames_le e.typeName f n
    rw [List.count_insert]
    omega
  have hp := mergeEnum_names h
  have hstays := mem_of_exchange hp
  refine ⟨(hu.insert e.typeName).exchange hp hnodup hmember, fun n hn => ?_, fun n hn hnb =>
    hstays n (List.mem_insert_of_mem hn) hnb⟩
  rcases List.mem_cons.mp hn with rfl | hn
  · exact hstays _ List.mem_insert_self htype
  · exact mem_of_exchange_new hp hblock n hn

end Enums

/-! ### All models -/

/-- The names of the constants that the merge of an enum takes for its own. -/
def Model.oldConstants : Model → File → List String
  | .enum e, f => blockNames e.typeName f
  | .table _, _ | .composite _, _ => []

/-- **No name is declared twice.** Where the old file declares no name twice, neither does the new
one. It declares the names of the item, each of them once, and those of the old file other than the
constants of the old block. -/
theorem merge_namesUnique (hu : NamesUnique (namesOf f)) (hg : m.merge f = .ok g) :
    NamesUnique (namesOf g) ∧ (∀ n ∈ m.names, (namesOf g).count n = 1) ∧
      ∀ n ∈ namesOf f, n ∉ m.oldConstants f → n ∈ namesOf g := by
  suffices h : NamesUnique (namesOf g) ∧ (∀ n ∈ m.names, n ∈ namesOf g) ∧
      ∀ n ∈ namesOf f, n ∉ m.oldConstants f → n ∈ namesOf g by
    obtain ⟨hunique, hnames, hold⟩ := h
    refine ⟨hunique, fun n hn => ?_, hold⟩
    obtain ⟨hb, hc⟩ := names_ne hn
    exact le_antisymm (hunique n hb hc) (List.count_pos_iff.mpr (hnames n hn))
  cases m with
  | table t =>
    have hp := mergeTable_names hg
    refine ⟨((hu.insert _).insert _).perm hp, fun n hn => ?_, fun n hn _ => ?_⟩
    · rcases List.mem_pair.mp hn with rfl | rfl <;> simp [hp.mem_iff]
    · simp [hp.mem_iff, hn]
  | composite c =>
    have hp := mergeComposite_names hg
    refine ⟨(hu.insert _).perm hp, fun n hn => ?_, fun n hn _ => ?_⟩
    · obtain rfl := List.mem_singleton.mp hn
      simp [hp.mem_iff]
    · simp [hp.mem_iff, hn]
  | enum e => exact mergeEnum_unique hg hu

/-- An enum with a value that is new to the file, where that of another constant is gone. -/
def mood : EnumType := ⟨"mood", ["sad", "happy"]⟩

def moodFile : String :=
  "package models\n\ntype Mood string\n\n" ++
    "const (\n\tMoodSad Mood = \"sad\"\n\tMoodCalm Mood = \"calm\"\n)\n\nvar _, _ = 1, 2\n"

theorem merge_namesUnique_mood :
    ∃ f g, current (some moodFile) "models" = .ok f ∧ mergeEnum mood f = .ok g ∧
      NamesUnique (namesOf f) ∧ NamesUnique (namesOf g) ∧
      (∀ n ∈ (Model.enum mood).names, (namesOf g).count n = 1) ∧
      ∀ n ∈ namesOf f, n ∉ (Model.enum mood).oldConstants f → n ∈ namesOf g := by
  have hunique : (current (some moodFile) "models").map
      (fun f => decide (NamesUnique (namesOf f))) = .ok true := by
    decide +kernel
  have hmerge : mergeSource (.enum mood) (some moodFile) "models" =
      .ok ("package models\n\ntype Mood string\n\nconst (\n\tMoodSad   Mood = \"sad\"\n" ++
        "\tMoodHappy Mood = \"happy\"\n)\n\nvar _, _ = 1, 2\n") := by
    decide +kernel
  obtain ⟨f, g, hf, hg, -⟩ := mergeSource_eq_ok_iff.mp hmerge
  rw [hf] at hunique
  have hu : NamesUnique (namesOf f) := by simpa [Except.map] using hunique
  exact ⟨f, g, hf, hg, hu, merge_namesUnique hu hg⟩

end SchemaGo.Merge
