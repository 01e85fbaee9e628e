import Mathlib
import SchemaGo.Proofs.Merge.Fixpoint

/-!
The names that a new model file declares.
-/

namespace SchemaGo.Merge

open Go

variable {f g : File} {m : Model}

/-- The names that the declarations of a file introduce, in order. -/
def namesOf (f : File) : List String := f.decls.flatMap (·.shape.names)

/-- The names of the constants of an enum. -/
def memberNames (e : EnumType) : List String := e.values.mapIdx (memberName e.typeName)

namespace Model

/-- The names that are made from that of the item, and from the values of an enum. -/
def names : Model → List String
  | table t => [t.extensionName, t.typeName]
  | enum e => e.typeName :: memberNames e
  | composite c => [c.typeName]

end Model

/-- What is added to the type for a value without letters and digits is made of them too. -/
lemma exists_memberName_eq (type : String) (i : ℕ) (value : String) :
    ∃ suffix, memberName type i value = type ++ suffix ∧ ∀ c ∈ suffix.toList,
      c ∈ (Naming.pascalCase value).toList ∨ c.isAlphanum = true := by
  refine ⟨_, rfl, fun c hc => ?_⟩
  split at hc
  · rw [String.toList_append, List.mem_append] at hc
    rcases hc with hc | hc
    · have hv : "Value".toList.all Char.isAlphanum = true := by decide
      exact .inr (List.all_eq_true.mp hv c hc)
    · have hr : c ∈ Nat.toDigits 10 i := by simpa [Nat.repr] using hc
      have hd : c.isDigit = true := Nat.isDigit_of_mem_toDigits (by decide) (by decide) hr
      exact .inr (by simp [Char.isAlphanum, hd])
  · exact .inl hc

lemma enumMembers_names {e : EnumType} {members : List Member}
    (h : enumMembers e.typeName e.values = .ok members) :
    members.map (·.name) = memberNames e ∧ (memberNames e).Nodup := by
  obtain ⟨hnodup, rfl⟩ := enumMembers_eq_ok_iff.mp h
  exact ⟨map_name_mapIdx _, hnodup⟩

lemma names_constsShape (type : String) (members : List Member) :
    (constsShape type members).names = members.map (·.name) := by
  simp only [constsShape, Shape.names, List.flatMap_map]
  exact (List.map_eq_flatMap).symm

/-- A model file that is new declares the names of its item and no others. -/
lemma namesOf_merge_empty {package : String} (h : m.merge (File.empty package) = .ok g) :
    namesOf g = m.names ∧ m.names.Nodup := by
  obtain ⟨cs, hr, hchanges⟩ := merge_changes h
  have hbefore : cs.filterMap Change.before = [] := hr.before
  rw [namesOf, ← hr.after]
  cases m with
  | table t =>
    obtain ⟨declared, fs, -, hcs⟩ := hchanges
    have hn : (Model.table t).names.Nodup := by simp [Model.names, extensionName_ne_typeName t]
    refine ⟨?_, hn⟩
    cases hcs with
    | insertedBoth l₁ l₂ absent absent' =>
      obtain ⟨rfl, rfl⟩ : l₁ = [] ∧ l₂ = [] := by simpa using hbefore
      rfl
    | _ => simp at hbefore
  | composite c =>
    obtain ⟨fs, -, hcs⟩ := hchanges
    refine ⟨?_, List.nodup_singleton _⟩
    cases hcs with
    | inserted l₁ l₂ absent =>
      obtain ⟨rfl, rfl⟩ : l₁ = [] ∧ l₂ = [] := by simpa using hbefore
      rfl
    | replaced => simp at hbefore
  | enum e =>
    obtain ⟨members, hmembers, hcs⟩ := hchanges
    obtain ⟨hnames, hnodup⟩ := enumMembers_names hmembers
    have hn : (Model.enum e).names.Nodup := by
      refine List.nodup_cons.mpr ⟨fun hm => ?_, hnodup⟩
      rw [← hnames] at hm
      obtain ⟨x, hx, he⟩ := List.mem_map.mp hm
      exact ne_of_enumMembers hmembers hx he
    refine ⟨?_, hn⟩
    cases hcs with
    | noBlock l₁ l₂ c typed first absent =>
      obtain ⟨rfl, hc, rfl⟩ : l₁ = [] ∧ c.before.toList = [] ∧ l₂ = [] := by
        simpa [filterMap_before_cons, newBlock_before] using hbefore
      obtain rfl : c = .inserted (enumTypeDecl e.typeName) := by
        cases typed with
        | kept => simp at hc
        | inserted => rfl
      by_cases hm : members = []
      · have hnone : memberNames e = [] := by simp [← hnames, hm]
        simp [hm, newBlock, keep, Model.names, hnone, enumTypeDecl, Decl.generated, Shape.names]
      · have hblock := names_constsShape e.typeName members
        simp [hm, newBlock, keep, Model.names, ← hnames, enumTypeDecl, Decl.generated, hblock]
        rfl
    | insertedType => simp [filterMap_before_cons] at hbefore
    | blockBehind => simp at hbefore
    | blockBefore => simp at hbefore

/-- Declarations that are read back have the names that they had. -/
lemma names_of_readBack {ds es : List Decl} (h : List.Forall₂ Decl.ReadBack ds es) :
    es.flatMap (·.shape.names) = ds.flatMap (·.shape.names) := by
  induction h with
  | nil => rfl
  | cons hde _ ih => rw [List.flatMap_cons, List.flatMap_cons, hde.shape, ih]

/-- **A new model file, read back, declares the names of its item**, each of them once. -/
theorem mergeSource_new_names {package out : String} (hm : m.Legal)
    (hp : Lexeme.isWord package = true) (h : mergeSource m none package = .ok out) :
    (∃ g, File.read out = .ok g ∧ namesOf g = m.names) ∧ m.names.Nodup := by
  obtain ⟨f, g, hf, hg, rfl⟩ := mergeSource_eq_ok_iff.mp h
  obtain rfl : File.empty package = f := by simpa [current] using hf
  obtain ⟨hnames, hnodup⟩ := namesOf_merge_empty hg
  obtain ⟨g', hread, hr⟩ := read_print (merge_tidy hm (tidy_empty hp) hg)
  exact ⟨⟨g', hread, (names_of_readBack hr.decls.decls).trans hnames⟩, hnodup⟩

end SchemaGo.Merge
