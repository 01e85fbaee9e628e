import Mathlib
import SchemaGo.Go.Lexeme.Spell
import SchemaGo.Proofs.Merge.Hygiene
import SchemaGo.Proofs.Naming

/-!
Whether the packages of a generated struct can be found. The types of its fields are qualified by
the last segments of the managed paths. A merge sees to it that these paths are imported, but under
which names is for the file to say.
-/

namespace SchemaGo.Go

variable {ts us : List Lexeme} {t : Lexeme}

/-! ### Qualifiers of types -/

/-- The names that qualify others in a type, as `time` does in `[]time.Time`. -/
def typeQualifiers (type : String) : List String := qualifiersFrom false (Lexeme.scan type)

lemma mem_of_next {tail : Grammar.Tail} (h : Grammar.next tail ts = some (t, us)) : t ∈ ts := by
  fun_induction Grammar.next tail ts <;> simp_all

lemma not_upcoming_mark {tail : Grammar.Tail} {c : Char} (h : .mark c ∉ ts) :
    Grammar.upcoming tail ts ≠ .mark c :: us := by
  unfold Grammar.upcoming
  split
  · next t rest hn =>
    intro ht
    rw [(List.cons.inj ht).1] at hn
    exact h (mem_of_next hn)
  · simp

/-- Nothing is qualified without a dot. -/
lemma qualifiersFrom_eq_nil (selected : Bool) (h : .mark '.' ∉ ts) :
    qualifiersFrom selected ts = [] := by
  induction ts generalizing selected with
  | nil => rfl
  | cons t ts ih =>
    have ht : .mark '.' ≠ t := fun he => h (by simp [he])
    have hts : .mark '.' ∉ ts := fun hm => h (by simp [hm])
    cases t with
    | blank | comment | newline => exact ih selected hts
    | number | string | rune => exact ih false hts
    | mark c =>
      have hc : c ≠ '.' := fun hc => ht (hc ▸ rfl)
      rw [qualifiersFrom.eq_def]
      split <;> simp_all
    | word w =>
      rw [qualifiersFrom]
      split
      · next us hu => exact absurd hu (not_upcoming_mark hts)
      · exact ih false hts

lemma typeQualifiers_eq_nil {type : String} (h : '.' ∉ type.toList) : typeQualifiers type = [] := by
  refine qualifiersFrom_eq_nil false fun hm => h ?_
  rw [← Lexeme.spell_scan type, Lexeme.toList_spell]
  exact List.mem_flatMap.mpr ⟨_, hm, by simp [Lexeme.text]⟩

lemma dot_not_mem_pascalCase (s : String) : '.' ∉ (Naming.pascalCase s).toList := fun h =>
  absurd (Naming.pascalCase_nameChar s '.' h) (by decide)

lemma dot_not_mem_text {d : Schema.DataType} (h : (BaseType.ofDataType d).importPath? = none) :
    '.' ∉ (BaseType.ofDataType d).text.toList := by
  cases d with
  | custom name => exact dot_not_mem_pascalCase name
  | json | jsonBinary | date | time | timeTz | timestamp | timestampTz => exact absurd h (by decide)
  | _ => decide

lemma dot_not_mem_marks (t : ColumnType) : '.' ∉ t.marks.toList := by
  obtain ⟨base, slice, pointer⟩ := t
  cases slice <;> cases pointer <;> simp [ColumnType.marks]

/-- A type is qualified if and only if it needs an import, and then by the last segment of the
path. -/
lemma typeQualifiers_render (raw : String) (isArray isNullable : Bool) :
    typeQualifiers (ColumnType.ofName raw isArray isNullable).render =
      (ColumnType.ofName raw isArray isNullable).importPath?.toList.map ImportSpec.lastSegment := by
  obtain ⟨d, slice, pointer, h⟩ : ∃ d slice pointer, ColumnType.ofName raw isArray isNullable =
      ⟨.ofDataType d, slice, pointer⟩ := ⟨_, _, _, rfl⟩
  rw [h, ColumnType.importPath?]
  have hdot := dot_not_mem_text (d := d)
  cases hb : BaseType.ofDataType d with
  | time | json => cases slice <;> cases pointer <;> decide
  | scalar _ | bytes | user _ =>
    rw [hb] at hdot
    refine typeQualifiers_eq_nil fun hm => hdot rfl ?_
    rw [ColumnType.render, String.toList_append] at hm
    exact (List.mem_append.mp hm).resolve_left (dot_not_mem_marks _)

def Field.type : Field → String
  | .named _ t | .embedded t => t

/-! ### Names of packages -/

/-- In the print of the file, exactly one import has the name, and it is that of `path`. -/
def File.Resolves (f : File) (name path : String) : Prop :=
  ∃ s, f.sortedImports.filter (·.localName == name) = [s] ∧ s.path = path

/-- Repeats aside, which are printed once, a single entry has the name. -/
lemma File.resolves_iff {f : File} {name path : String} :
    f.Resolves name path ↔ (∃ s ∈ f.imports, s.path = path ∧ s.localName = name) ∧
      ∀ s ∈ f.imports, ∀ t ∈ f.imports, s.localName = name → t.localName = name →
        File.Repeats s t := by
  have hprinted : ∀ s ∈ f.imports, ∃ t ∈ f.sortedImports, File.Repeats t s := fun s hs =>
    File.exists_mem_dropRepeats (List.mem_mergeSort.mpr hs)
  constructor
  · rintro ⟨u, hu, hp⟩
    have hunique : ∀ s ∈ f.imports, s.localName = name → File.Repeats u s := by
      intro s hs hn
      obtain ⟨t, ht, hr⟩ := hprinted s hs
      have hmem : t ∈ f.sortedImports.filter (·.localName == name) := by
        have hname := (Merge.localName_of_repeats hr).2
        simp [ht, hname, hn]
      rw [hu, List.mem_singleton] at hmem
      exact hmem ▸ hr
    have hmem : u ∈ f.sortedImports.filter (·.localName == name) := by simp [hu]
    rw [List.mem_filter, beq_iff_eq] at hmem
    refine ⟨⟨u, mem_of_mem_sortedImports hmem.1, hp, hmem.2⟩, fun s hs t ht hsn htn => ?_⟩
    have h₁ := hunique s hs hsn
    have h₂ := hunique t ht htn
    exact ⟨h₁.1.symm.trans h₂.1, h₁.2.symm.trans h₂.2⟩
  · rintro ⟨⟨s, hs, hp, hn⟩, hunique⟩
    obtain ⟨t, ht, hr⟩ := hprinted s hs
    obtain ⟨hpath, hname⟩ := Merge.localName_of_repeats hr
    refine ⟨t, ?_, hpath.trans hp⟩
    refine File.eq_singleton_of_repeats
      (((File.pairwise_sortedImports f).imp fun h => h.2).filter _) ?_ fun u hu => ?_
    · simp [ht, hname, hn]
    · rw [List.mem_filter, beq_iff_eq] at hu
      exact hunique t (mem_of_mem_sortedImports ht) u (mem_of_mem_sortedImports hu.1)
        (hname.trans hn) hu.2

end SchemaGo.Go

namespace SchemaGo.Merge

open Go

variable {f g : File} {m : Model} {columns : List Column} {cs : List Change}

/-! ### Qualifiers of generated structs -/

lemma mem_managedImports_of_importPath? {t : ColumnType} {path : String}
    (h : t.importPath? = some path) : path ∈ managedImports := by
  obtain ⟨base, slice, pointer⟩ := t
  cases base with
  | json | time =>
    obtain rfl := Option.some.inj h
    decide
  | scalar _ | bytes | user _ => simp [ColumnType.importPath?, BaseType.importPath?] at h

/-- What qualifies the type of a field is the last segment of a path that is needed. -/
lemma exists_of_mem_typeQualifiers {x : Field} (hx : x ∈ m.fields columns) {q : String}
    (hq : q ∈ typeQualifiers x.type) :
    ∃ path ∈ managedImports, path ∈ columnImports columns ∧ q = ImportSpec.lastSegment path := by
  have hcolumns : ∀ x ∈ columns.map columnField, q ∈ typeQualifiers x.type →
      ∃ path ∈ managedImports, path ∈ columnImports columns ∧ q = ImportSpec.lastSegment path := by
    intro x hx hq
    obtain ⟨c, hc, rfl⟩ := List.mem_map.mp hx
    rw [columnField, Field.type, columnType, typeQualifiers_render, List.mem_map] at hq
    obtain ⟨path, hp, rfl⟩ := hq
    refine ⟨path, mem_managedImports_of_importPath? (Option.mem_toList.mp hp), ?_, rfl⟩
    exact List.mem_flatMap.mpr ⟨c, hc, hp⟩
  cases m with
  | table t =>
    rcases List.mem_append.mp hx with hx | hx
    · exact hcolumns x hx hq
    · -- the container is declared in the same package
      obtain rfl := List.mem_singleton.mp hx
      have hdot : '.' ∉ t.extensionName.toList := by
        rw [Table.extensionName, String.toList_append, List.mem_append, not_or]
        exact ⟨dot_not_mem_pascalCase t.name, by decide⟩
      simp [Field.type, typeQualifiers_eq_nil hdot] at hq
  | composite c => exact hcolumns x hx hq
  | enum e => simp [Model.fields] at hx

lemma lastSegment_injOn : ∀ p ∈ managedImports, ∀ p' ∈ managedImports,
    ImportSpec.lastSegment p = ImportSpec.lastSegment p' → p = p' := by
  decide

/-! ### Names after a merge -/

/-- What the old file says about `name` agrees with its being the package of `path` in the new one:
another package of that name does not stay, and if `path` is imported already, then by that name,
and in one way. -/
structure IsCallable (f : File) (columns : List Column) (cs : List Change) (name path : String) :
    Prop where
  alone : ∀ s ∈ f.imports, s.localName = name → s.path ≠ path →
    s.path ∈ managedImports ∧ ¬ IsUsed f columns cs s.path
  named : f.hasImport path = true → ∃ s ∈ f.imports, s.path = path ∧ s.localName = name
  once : ∀ s ∈ f.imports, ∀ t ∈ f.imports, s.path = path → t.path = path → s.localName = name →
    t.localName = name → s.name? = t.name?

lemma mem_imports_iff (he : Emits f m columns cs) (hr : Rewrites cs f g)
    (hsync : g = syncImports { f with decls := g.decls } (columnImports columns)) {s : ImportSpec} :
    s ∈ g.imports ↔ (s ∈ f.imports ∧ (s.path ∈ managedImports → IsUsed f columns cs s.path)) ∨
      ∃ p ∈ managedImports, IsUsed f columns cs p ∧ f.hasImport p = false ∧ s = .plain p := by
  conv_lhs => rw [hsync, mem_syncImports]
  simp only [he.isKept_iff hr]
  rfl

/-- **When generated code finds its packages.** Where a field of the generated struct has a
qualified type, the printed file has exactly one import of that name, and it is the managed one,
if and only if the old file did not give the name to another package that stays, nor another name
to the package. -/
theorem merge_resolves {existing : Option String} {package : String}
    (hf : current existing package = .ok f) (hg : m.merge f = .ok g) :
    ∃ columns cs, Emits f m columns cs ∧ Rewrites cs f g ∧
      ∀ path ∈ managedImports,
        (∃ x ∈ m.fields columns, ImportSpec.lastSegment path ∈ typeQualifiers x.type) →
          (g.Resolves (ImportSpec.lastSegment path) path ↔
            IsCallable f columns cs (ImportSpec.lastSegment path) path) := by
  obtain ⟨columns, cs, he, hr, hsync⟩ := merge_emits hg (current_unmanaged hf)
  refine ⟨columns, cs, he, hr, ?_⟩
  rintro path hpath ⟨x, hx, hq⟩
  obtain ⟨path', hpath', hneeded, hsegment⟩ := exists_of_mem_typeQualifiers hx hq
  obtain rfl := lastSegment_injOn path hpath path' hpath' hsegment
  have hmem := @mem_imports_iff _ _ _ _ _ he hr hsync
  rw [File.resolves_iff]
  generalize hname : ImportSpec.lastSegment path = name
  have hstays : ∀ s ∈ f.imports, s.path = path → s ∈ g.imports := fun s hs hp =>
    hmem.mpr (.inl ⟨hs, fun _ => .inl (hp ▸ hneeded)⟩)
  -- what is new and has the name is the plain import of the path
  have hplain : ∀ p ∈ managedImports, (ImportSpec.plain p).localName = name → p = path :=
    fun p hp hn => lastSegment_injOn p hp path hpath (hn.trans hname.symm)
  constructor
  · rintro ⟨⟨u, hu, hup, hun⟩, hunique⟩
    refine ⟨fun s hs hn hne => ?_, fun hi => ?_, fun s hs t ht hsp htp hsn htn => ?_⟩
    · by_contra hstay
      push Not at hstay
      exact hne ((hunique s (hmem.mpr (.inl ⟨hs, hstay⟩)) u hu hn hun).1.trans hup)
    · rcases hmem.mp hu with ⟨hu, -⟩ | ⟨p, -, -, hno, rfl⟩
      · exact ⟨u, hu, hup, hun⟩
      · obtain rfl : p = path := hup
        rw [hi] at hno
        simp at hno
    · exact (hunique s (hstays s hs hsp) t (hstays t ht htp) hsn htn).2
  · rintro ⟨halone, hnamed, honce⟩
    -- an entry of the new file that has the name is an old one of the path, or the new one
    have hcases : ∀ s ∈ g.imports, s.localName = name → (s ∈ f.imports ∧ s.path = path) ∨
        (f.hasImport path = false ∧ s = .plain path) := by
      intro s hs hn
      rcases hmem.mp hs with ⟨hs, hstay⟩ | ⟨p, hp, -, hno, rfl⟩
      · refine .inl ⟨hs, ?_⟩
        by_contra hne
        obtain ⟨hm, hunused⟩ := halone s hs hn hne
        exact hunused (hstay hm)
      · obtain rfl := hplain p hp hn
        exact .inr ⟨hno, rfl⟩
    constructor
    · by_cases hi : f.hasImport path = true
      · obtain ⟨s, hs, hp, hn⟩ := hnamed hi
        exact ⟨s, hstays s hs hp, hp, hn⟩
      · refine ⟨.plain path, hmem.mpr (.inr ⟨path, hpath, .inl hneeded, ?_, rfl⟩), rfl, hname⟩
        simpa using hi
    · intro s hs t ht hsn htn
      rcases hcases s hs hsn with ⟨hs, hsp⟩ | ⟨hno, rfl⟩ <;>
        rcases hcases t ht htn with ⟨ht, htp⟩ | ⟨hno', rfl⟩
      · exact ⟨hsp.trans htp.symm, honce s hs t ht hsp htp hsn htn⟩
      · rw [hasImport_iff.mpr ⟨s, hs, hsp⟩] at hno'
        simp at hno'
      · rw [hasImport_iff.mpr ⟨t, ht, htp⟩] at hno
        simp at hno
      · exact ⟨rfl, rfl⟩

/-! ### Another name for a package -/

/-- A type with a column whose field is qualified. -/
def person : CompositeType := { name := "person", columns := [⟨"born", { name := "date" }⟩] }

/-- A file that gives the package of that column another name than generated code does. -/
def aliasedFile : String := "package models\n\nimport t \"time\"\n"

lemma mergeSource_aliased : mergeSource (.composite person) (some aliasedFile) "models" =
    .ok ("package models\n\nimport t \"time\"\n\n" ++
      "type Person struct \x7b\n\tBorn time.Time\n\x7d\n") := by
  decide +kernel

lemma person_qualified : ∃ x ∈ (Model.composite person).fields person.columns,
    ImportSpec.lastSegment "time" ∈ typeQualifiers x.type := by
  decide

theorem merge_resolves_person :
    ∃ f g cs, current (some aliasedFile) "models" = .ok f ∧
      (Model.composite person).merge f = .ok g ∧ Emits f (.composite person) person.columns cs ∧
      Rewrites cs f g ∧ (g.Resolves (ImportSpec.lastSegment "time") "time" ↔
        IsCallable f person.columns cs (ImportSpec.lastSegment "time") "time") := by
  obtain ⟨f, g, hf, hg, -⟩ := mergeSource_eq_ok_iff.mp mergeSource_aliased
  obtain ⟨columns, cs, he, hr, h⟩ := merge_resolves hf hg
  have hcolumns : columns = person.columns := by
    cases he
    rfl
  subst hcolumns
  exact ⟨f, g, cs, hf, hg, he, hr, h "time" (by decide) person_qualified⟩

/-- The import of the old file is left as it is, and nothing in the new one is called `time`. -/
theorem merge_aliased :
    ∃ f g, current (some aliasedFile) "models" = .ok f ∧ mergeComposite person f = .ok g ∧
      (∃ d ∈ g.decls, d.body = renderStruct "Person" [.named "Born" "time.Time"]) ∧
      "time" ∈ typeQualifiers "time.Time" ∧ ¬ g.Resolves "time" "time" := by
  refine ⟨{ File.empty "models" with imports := [⟨[], "t \"time\"", some "t", "time"⟩] },
    { File.empty "models" with
      imports := [⟨[], "t \"time\"", some "t", "time"⟩]
      decls := [.generated (renderStruct "Person" [.named "Born" "time.Time"])
        (structShape "Person" [.named "Born" "time.Time"])] },
    by decide, by decide, ⟨_, List.mem_singleton_self _, rfl⟩, by decide, ?_⟩
  rw [File.resolves_iff]
  rintro ⟨⟨s, hs, -, hn⟩, -⟩
  obtain rfl := List.mem_singleton.mp hs
  exact absurd hn (by decide)

end SchemaGo.Merge
