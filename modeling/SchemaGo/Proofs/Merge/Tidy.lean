import Mathlib
import SchemaGo.Proofs.Merge.Fields
import SchemaGo.Proofs.Merge.Imports

/-!
Merges keep files tidy, as long as the names that they put into a file are names of the language.
-/

namespace SchemaGo.Merge

open Go Lexeme

variable {f g : File}

/-! ### Legal models -/

/-- The fields that the columns get have names and types of the language. -/
def LegalColumns (cs : List Column) : Prop :=
  ∀ c ∈ cs, isWord (fieldName c.name) = true ∧ (columnType c.type).base.legal = true

/-- All names that a merge puts into a file are names of the language. -/
def Model.Legal : Model → Prop
  | .table t => isWord t.typeName = true ∧ LegalColumns t.columns
  | .enum e => isTypeName e.typeName = true ∧
      ∀ i v, e.values[i]? = some v → isWord (memberName e.typeName i v) = true
  | .composite c => isWord c.typeName = true ∧ LegalColumns c.columns

lemma isWord_append {s t : String} (hs : isWord s = true)
    (ht : ∀ c ∈ t.toList, Unicode.isIdentPart c = true) : isWord (s ++ t) = true := by
  obtain ⟨c, rest, hc, hstart, hrest⟩ := isWord_eq_true hs
  rw [isWord, String.toList_append, hc, List.cons_append]
  simp only [hstart, Bool.true_and, List.all_eq_true, List.mem_append]
  rintro d (hd | hd)
  · exact hrest d hd
  · exact ht d hd

lemma isWord_extensionName {t : Table} (h : isWord t.typeName = true) :
    isWord t.extensionName = true :=
  isWord_append h (List.all_eq_true.mp (by decide))

/-! ### Fields -/

lemma columnField_legal {cs : List Column} (hcs : LegalColumns cs) :
    ∀ f ∈ cs.map columnField, f.Legal := by
  intro f hf
  obtain ⟨c, hc, rfl⟩ := List.mem_map.mp hf
  obtain ⟨hn, ht⟩ := hcs c hc
  exact ⟨hn, _, ColumnType.isType_lexemes ht, ColumnType.spell_lexemes _⟩

lemma columnFields_legal {cs : List Column} (hcs : LegalColumns cs) {fs : Fields}
    (h : columnFields cs = .ok fs) : ∀ f ∈ fs.fields, f.Legal := by
  obtain ⟨-, rfl⟩ := columnFields_eq_ok_iff.mp h
  exact columnField_legal hcs

lemma mainFields_legal {t : Table} (ht : isWord t.typeName = true) (hcs : LegalColumns t.columns)
    {declared : List String} {fs : Fields} (h : mainFields t declared = .ok fs) :
    ∀ f ∈ fs.fields, f.Legal := by
  obtain ⟨-, rfl⟩ := mainFields_eq_ok_iff.mp h
  intro f hf
  rcases List.mem_append.mp hf with hf | hf
  · exact columnField_legal (fun c hc => hcs c (mem_undeclared.mp hc).1) f hf
  · obtain rfl := List.mem_singleton.mp hf
    exact isWord_extensionName ht

lemma enumMembers_legal {type : String} {values : List String} {members : List Member}
    (h : enumMembers type values = .ok members)
    (hv : ∀ i v, values[i]? = some v → isWord (memberName type i v) = true) :
    ∀ m ∈ members, isWord m.name = true := by
  obtain ⟨-, rfl⟩ := enumMembers_eq_ok_iff.mp h
  intro m hm
  obtain ⟨i, hi, rfl⟩ := List.mem_mapIdx.mp hm
  exact hv i _ (List.getElem?_eq_getElem hi)

/-! ### Declarations -/

lemma tidy_generated {body : String} {shape : Shape}
    (h : ∃ qualifiers, ReadsAs body shape qualifiers) : (Decl.generated body shape).Tidy where
  leading := ⟨[], rfl, above_nil _⟩
  body := by
    obtain ⟨qualifiers, h⟩ := h
    exact ⟨qualifiers, h, by simp [Decl.generated]⟩

/-- Of a tidy declaration the change makes a tidy one. -/
def Change.KeepsTidy : Change → Prop
  | .kept d managed => managed = true ∨ managed = d.managed
  | .replaced _ body shape => ∃ qualifiers, ReadsAs body shape qualifiers
  | .dropped _ => True
  | .inserted d => d.Tidy

lemma Change.KeepsTidy.after {c : Change} (hc : c.KeepsTidy) (hb : ∀ d ∈ c.before, d.Tidy) :
    ∀ d ∈ c.after, d.Tidy := by
  intro d hd
  cases c with
  | kept d₀ managed =>
    obtain rfl : { d₀ with managed } = d := by simpa using hd
    obtain ⟨hl, qualifiers, hbody, hq⟩ := hb d₀ (by simp)
    refine ⟨hl, qualifiers, hbody, fun hm => hq ?_⟩
    rcases hc with rfl | rfl
    · exact absurd hm (by simp)
    · exact hm
  | replaced d₀ body shape =>
    obtain rfl : { d₀ with body, shape, managed := true } = d := by simpa using hd
    obtain ⟨qualifiers, hbody⟩ := hc
    exact ⟨(hb d₀ (by simp)).leading, qualifiers, hbody, by simp⟩
  | dropped d₀ => simp at hd
  | inserted d₀ =>
    obtain rfl : d₀ = d := by simpa using hd
    exact hc

lemma keepsTidy_keep (ds : List Decl) : ∀ c ∈ keep ds, c.KeepsTidy := by
  intro c hc
  obtain ⟨d, -, rfl⟩ := List.mem_map.mp hc
  exact .inr rfl

lemma CompositeChanges.keepsTidy {type : String} {fields : List Field} {cs : List Change}
    (h : CompositeChanges type fields cs) (ht : isWord type = true)
    (hf : ∀ f ∈ fields, f.Legal) : ∀ c ∈ cs, c.KeepsTidy := by
  have hread := readsAs_struct ht hf
  intro c hc
  cases h with
  | replaced l₁ l₂ d old shape first =>
    simp only [List.mem_append, List.mem_cons] at hc
    rcases hc with hc | rfl | hc
    · exact keepsTidy_keep l₁ c hc
    · exact hread
    · exact keepsTidy_keep l₂ c hc
  | inserted l₁ l₂ absent =>
    simp only [List.mem_append, List.mem_cons] at hc
    rcases hc with hc | rfl | hc
    · exact keepsTidy_keep l₁ c hc
    · exact tidy_generated hread
    · exact keepsTidy_keep l₂ c hc

lemma tidy_container {t : Table} (ht : isWord t.typeName = true) : (container t).Tidy where
  leading := ⟨[], rfl, above_nil _⟩
  body := ⟨[], readsAs_emptyStruct (isWord_extensionName ht), fun _ => rfl⟩

lemma TableChanges.keepsTidy {t : Table} {fields : List Field} {cs : List Change}
    (h : TableChanges t fields cs) (ht : isWord t.typeName = true)
    (hf : ∀ f ∈ fields, f.Legal) : ∀ c ∈ cs, c.KeepsTidy := by
  have hread := readsAs_struct ht hf
  have hbox := tidy_container ht
  intro c hc
  cases h with
  | replaced l₁ l₂ d old shape first =>
    simp only [List.mem_append, List.mem_cons] at hc
    rcases hc with hc | rfl | hc
    · exact keepsTidy_keep l₁ c hc
    · exact hread
    · exact keepsTidy_keep l₂ c hc
  | insertedMain l₁ l₂ box declared shape first absent =>
    simp only [List.mem_append, List.mem_cons] at hc
    rcases hc with hc | rfl | rfl | hc
    · exact keepsTidy_keep l₁ c hc
    · exact .inr rfl
    · exact tidy_generated hread
    · exact keepsTidy_keep l₂ c hc
  | insertedBoth l₁ l₂ absent absent' =>
    simp only [List.mem_append, List.mem_cons] at hc
    rcases hc with hc | rfl | rfl | hc
    · exact keepsTidy_keep l₁ c hc
    · exact hbox
    · exact tidy_generated hread
    · exact keepsTidy_keep l₂ c hc
  | replacedBehind l₁ l₂ l₃ d old shape first absent =>
    simp only [List.mem_append, List.mem_cons] at hc
    rcases hc with (hc | rfl | hc) | rfl | hc
    · exact keepsTidy_keep l₁ c hc
    · exact hbox
    · exact keepsTidy_keep l₂ c hc
    · exact hread
    · exact keepsTidy_keep l₃ c hc
  | replacedBefore l₁ l₂ l₃ d old shape first absent =>
    simp only [List.mem_append, List.mem_cons] at hc
    rcases hc with (hc | rfl | hc) | rfl | hc
    · exact keepsTidy_keep l₁ c hc
    · exact hread
    · exact keepsTidy_keep l₂ c hc
    · exact hbox
    · exact keepsTidy_keep l₃ c hc

lemma isWord_of_isTypeName {s : String} (h : isTypeName s = true) : isWord s = true :=
  (Bool.and_eq_true_iff.mp h).1

lemma EnumChanges.keepsTidy {type : String} {members : List Member} {cs : List Change}
    (h : EnumChanges type members cs) (ht : isTypeName type = true)
    (hm : ∀ m ∈ members, isWord m.name = true) : ∀ c ∈ cs, c.KeepsTidy := by
  have hread := readsAs_consts ht hm
  have htype : (enumTypeDecl type).Tidy :=
    tidy_generated ⟨_, readsAs_stringType (isWord_of_isTypeName ht)⟩
  have hblock : ∀ b, (blockChange type members b).KeepsTidy := by
    intro b
    unfold blockChange
    split
    · trivial
    · exact hread
  have hnew : ∀ c ∈ newBlock type members, c.KeepsTidy := by
    intro c hc
    unfold newBlock at hc
    split at hc
    · simp at hc
    · obtain rfl := List.mem_singleton.mp hc
      exact tidy_generated hread
  intro c hc
  cases h with
  | noBlock l₁ l₂ d typed first absent =>
    simp only [List.mem_append, List.mem_cons] at hc
    rcases hc with (hc | rfl | hc) | hc
    · exact keepsTidy_keep l₁ c hc
    · cases typed with
      | kept d shape => exact .inl rfl
      | inserted => exact htype
    · exact hnew c hc
    · exact keepsTidy_keep l₂ c hc
  | insertedType l₁ l₂ b block first absent =>
    simp only [List.mem_append, List.mem_cons] at hc
    rcases hc with hc | rfl | rfl | hc
    · exact keepsTidy_keep l₁ c hc
    · exact htype
    · exact hblock b
    · exact keepsTidy_keep l₂ c hc
  | blockBehind l₁ l₂ l₃ d b shape first block first' =>
    simp only [List.mem_append, List.mem_cons] at hc
    rcases hc with (hc | rfl | hc) | rfl | hc
    · exact keepsTidy_keep l₁ c hc
    · exact .inl rfl
    · exact keepsTidy_keep l₂ c hc
    · exact hblock b
    · exact keepsTidy_keep l₃ c hc
  | blockBefore l₁ l₂ l₃ b d shape first block first' =>
    simp only [List.mem_append, List.mem_cons] at hc
    rcases hc with (hc | rfl | hc) | rfl | hc
    · exact keepsTidy_keep l₁ c hc
    · exact hblock b
    · exact keepsTidy_keep l₂ c hc
    · exact .inl rfl
    · exact keepsTidy_keep l₃ c hc

/-- The declarations of the new file are those of the old one or read as they are generated. -/
lemma ModelChanges.keepsTidy {m : Model} {cs : List Change} (hm : m.Legal)
    (h : ModelChanges cs m) : ∀ c ∈ cs, c.KeepsTidy := by
  cases m with
  | table t =>
    obtain ⟨declared, fs, hfs, hcs⟩ := h
    exact hcs.keepsTidy hm.1 (mainFields_legal hm.1 hm.2 hfs)
  | enum e =>
    obtain ⟨members, hmembers, hcs⟩ := h
    exact hcs.keepsTidy hm.1 (enumMembers_legal hmembers hm.2)
  | composite c =>
    obtain ⟨fs, hfs, hcs⟩ := h
    exact hcs.keepsTidy hm.1 (columnFields_legal hm.2 hfs)

/-! ### Imports -/

/-- A path that needs no escapes between its quotes. -/
lemma tidy_quoted {path : String} (h : stringLiteral path = "\"" ++ path ++ "\"") :
    (⟨[], "\"" ++ path ++ "\"", none, unquote ("\"" ++ path ++ "\"")⟩ : ImportSpec).Tidy where
  leading := by simp
  entry := by
    refine ⟨_, _, [], .plain ("\"" ++ path ++ "\""), by simp [remarks], rfl, rfl, by simp,
      fun rest => ?_⟩
    rw [← h]
    exact ⟨reads_stringLiteral path _, trivial⟩

lemma tidy_plain {path : String} (h : stringLiteral path = "\"" ++ path ++ "\"")
    (hu : unquote ("\"" ++ path ++ "\"") = path) : (ImportSpec.plain path).Tidy := by
  have hq := tidy_quoted h
  rwa [hu] at hq

lemma tidy_managedImports : ∀ p ∈ managedImports, (ImportSpec.plain p).Tidy := by
  intro p hp
  simp only [managedImports, List.mem_cons, List.not_mem_nil, or_false] at hp
  rcases hp with rfl | rfl
  · exact tidy_plain (by decide) (by decide)
  · exact tidy_plain (by decide) (by decide)

lemma tidy_setImport {path : String} (hp : (ImportSpec.plain path).Tidy) (keep : Bool)
    (hf : f.Tidy) : (setImport f path keep).Tidy := by
  have himports : ∀ s ∈ (setImport f path keep).imports, s.Tidy := by
    intro s hs
    rcases mem_setImport.mp hs with ⟨hs, -⟩ | ⟨-, -, rfl⟩
    · exact hf.imports s hs
    · exact hp
  obtain ⟨hframe, hdecls⟩ := setImport_frame f path keep
  have hlead : IsComments (setImport f path keep).importLeading ∧
      ((setImport f path keep).importLeading = "" ∨ (setImport f path keep).imports ≠ [] ∨
        (setImport f path keep).importTail ≠ []) := by
    unfold setImport
    split
    · unfold File.addImport
      split
      · exact ⟨hf.importLeading, hf.block⟩
      · exact ⟨hf.importLeading, .inr (.inl (by simp))⟩
    · split
      · simp only [File.removeImport]
        split
        · exact ⟨isComments_empty, .inl rfl⟩
        · next hne =>
          refine ⟨hf.importLeading, .inr ?_⟩
          simpa only [List.isEmpty_iff, Bool.and_eq_true, not_and_or] using hne
      · exact ⟨hf.importLeading, hf.block⟩
  exact
    { header := hframe.header ▸ hf.header
      packageLine := hframe.packageLine ▸ hf.packageLine
      importLeading := hlead.1
      block := hlead.2
      imports := himports
      importTail := hframe.importTail ▸ hf.importTail
      decls := hdecls ▸ hf.decls
      trailer := hframe.trailer ▸ hf.trailer }

lemma tidy_syncImports (hf : f.Tidy) (needed : List String) : (syncImports f needed).Tidy := by
  have key : ∀ paths : List String, (∀ p ∈ paths, (ImportSpec.plain p).Tidy) → ∀ {g : File},
      g.Tidy → (paths.foldl (fun g p => setImport g p (isKept f needed p)) g).Tidy := by
    intro paths hps
    induction paths with
    | nil => exact id
    | cons p ps ih =>
      intro g hg
      exact ih (fun q hq => hps q (by simp [hq])) (tidy_setImport (hps p (by simp)) _ hg)
  exact key managedImports tidy_managedImports hf

/-! ### Files -/

lemma merge_tidy_decls {m : Model} (hm : m.Legal) (hf : ∀ d ∈ f.decls, d.Tidy)
    (h : m.merge f = .ok g) : ∀ d ∈ g.decls, d.Tidy := by
  obtain ⟨cs, hr, hcs⟩ := merge_changes h
  intro d hd
  rw [← hr.after] at hd
  obtain ⟨c, hc, hcd⟩ := List.mem_filterMap.mp hd
  refine (hcs.keepsTidy hm c hc).after (fun b hb => hf b ?_) d hcd
  rw [← hr.before]
  exact List.mem_filterMap.mpr ⟨c, hc, hb⟩

/-- **A merge keeps a file tidy.** -/
theorem merge_tidy {m : Model} (hm : m.Legal) (hf : f.Tidy) (h : m.merge f = .ok g) :
    g.Tidy := by
  have hds := merge_tidy_decls hm hf.decls h
  obtain ⟨ds, needed, rfl⟩ := merge_eq_syncImports h
  rw [syncImports_decls] at hds
  have htidy : { f with decls := ds }.Tidy :=
    ⟨hf.header, hf.packageLine, hf.importLeading, hf.block, hf.imports, hf.importTail, hds,
      hf.trailer⟩
  exact tidy_syncImports htidy needed

/-- A new file is tidy if its package has a name of the language. -/
lemma tidy_empty {package : String} (hp : isWord package = true) : (File.empty package).Tidy where
  header := by
    refine ⟨rfl, [], rfl, by simp, fun cs => ?_⟩
    rw [scan_eq_scanAll (by simp [File.empty])]
    simp [File.empty]
  packageLine := by
    refine ⟨[.blank " "], package, [], ?_, by simp [isTrivia], beside_nil, fun cs => ?_⟩
    · apply String.toList_injective
      simp [File.empty, toList_spell_eq_chars, Lexeme.text]
    · simp only [List.append_nil, List.cons_append, List.nil_append, readsAll_cons, chars_cons,
        chars_nil, Lexeme.text]
      refine ⟨reads_word (by decide) (isSpaces_one.isIdentPart _),
        isSpaces_one.reads (isSpace_of_isWord hp _), reads_word hp ?_, trivial⟩
      rintro c ⟨rfl⟩
      rfl
  importLeading := isComments_empty
  block := .inl rfl
  imports := by simp [File.empty]
  importTail := by simp [File.empty]
  decls := by simp [File.empty]
  trailer := isComments_empty

end SchemaGo.Merge
