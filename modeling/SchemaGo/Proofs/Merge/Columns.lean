import Mathlib
import SchemaGo.Proofs.Merge.History

/-!
Where the columns of a table are declared. A column whose field is written by hand in the container
has none in the main struct, and every other column has one there, in the order of the columns.
-/

namespace SchemaGo.Merge

open Go

variable {t : Table} {f g : File}

/-! ### The main struct -/

/-- The main struct with the given fields is the first among `ds` to declare its name. -/
def IsMain (t : Table) (fields : List Field) (ds : List Decl) : Prop :=
  ∃ l₁ d l₂, ds = l₁ ++ d :: l₂ ∧ d.body = renderStruct t.typeName fields ∧
    d.shape = structShape t.typeName fields ∧ ∀ e ∈ l₁, e.shape.declares t.typeName = false

/-- The container is what it was, and the columns that it has no field for are in the main
struct. -/
lemma mergeTable_declares (h : mergeTable t f = .ok g) (hun : ∀ d ∈ f.decls, d.managed = false) :
    ∃ box declared fs, Keeps t box declared f.decls ∧ IsContainer t box declared g.decls ∧
      mainFields t declared = .ok fs ∧ IsMain t fs.fields g.decls := by
  obtain ⟨s, box, declared, hkeeps, hs, hbeside, hp⟩ := mergeTable_placed h hun
  have hv : SameStruct (.table t) (.table t) := .table rfl
  have hg := hp.merge_decls hv
  rw [show (Model.table t).merge f = .ok g from h] at hg
  rcases hfs : (Model.table t).structFields declared with e | fs
  · simp [hfs, Except.map] at hg
  replace hg : g.decls = s.fill t.typeName fs.fields := by
    simpa [hfs, Except.map, Model.typeName] using hg
  refine ⟨box, declared, fs, hkeeps, ?_, hfs, s.above, _, s.below, hg, rfl, rfl, hs.first⟩
  rw [hg]
  exact hbeside _ (declares_extensionName_of_shape rfl)

/-- **Every column is declared exactly once.** The container stays as it is, or is new and empty.
The columns whose fields it has are left out of the main struct. All others have a field there, in
their order, and no two of them have the same one; last is the container itself. -/
theorem mergeSource_declares {existing : Option String} {package out : String}
    (h : mergeSource (.table t) existing package = .ok out) :
    ∃ f g box declared fields, current existing package = .ok f ∧ mergeTable t f = .ok g ∧
      out = g.print ∧ Keeps t box declared f.decls ∧ IsContainer t box declared g.decls ∧
      IsMain t (fields ++ [.embedded t.extensionName]) g.decls ∧
      fields = (undeclared t declared).map columnField ∧ (fields.map Field.address).Nodup ∧
      ∀ c ∈ t.columns, Xor (fieldName c.name ∈ declared)
        (fieldName c.name ∈ fields.map Field.address) := by
  obtain ⟨f, g, hf, hg, rfl⟩ := mergeSource_eq_ok_iff.mp h
  obtain ⟨box, declared, fs, hkeeps, hbox, hfs, hmain⟩ :=
    mergeTable_declares hg (current_unmanaged hf)
  obtain ⟨hn, rfl⟩ := mainFields_eq_ok_iff.mp hfs
  have haddress : ((undeclared t declared).map columnField).map Field.address =
      (undeclared t declared).map (fieldName ·.name) := by
    simp only [List.map_map, Function.comp_def, address_columnField]
  refine ⟨f, g, box, declared, (undeclared t declared).map columnField, hf, hg, rfl, hkeeps, hbox,
    hmain, rfl, ?_⟩
  rw [haddress]
  refine ⟨hn, fun c hc => ?_⟩
  by_cases hd : fieldName c.name ∈ declared
  · refine .inl ⟨hd, fun hm => ?_⟩
    obtain ⟨e, he, hname⟩ := List.mem_map.mp hm
    have hno := (mem_undeclared.mp he).2
    rw [hname] at hno
    exact hno hd
  · have hm := List.mem_map_of_mem (f := (fieldName ·.name)) (mem_undeclared.mpr ⟨hc, hd⟩)
    exact .inr ⟨hm, hd⟩

theorem mergeSource_declares_users :
    ∃ out, mergeSource (.table usersLater) (some handWritten) "models" = .ok out ∧
      ∃ f g box declared fields, current (some handWritten) "models" = .ok f ∧
        mergeTable usersLater f = .ok g ∧ out = g.print ∧
        Keeps usersLater box declared f.decls ∧ IsContainer usersLater box declared g.decls ∧
        IsMain usersLater (fields ++ [.embedded usersLater.extensionName]) g.decls ∧
        fields = (undeclared usersLater declared).map columnField ∧
        (fields.map Field.address).Nodup ∧
        ∀ c ∈ usersLater.columns, Xor (fieldName c.name ∈ declared)
          (fieldName c.name ∈ fields.map Field.address) := by
  have h : mergeSource (.table usersLater) (some handWritten) "models" =
      .ok ("package models\n\nimport t \"time\"\n\n" ++
        "// by hand\ntype UsersExtension struct \x7b\n\tEmail string\n\x7d\n" ++
        "\ntype Users struct \x7b\n\tBorn time.Time\n\tUsersExtension\n\x7d\n") := by
    decide +kernel
  exact ⟨_, h, mergeSource_declares h⟩

end SchemaGo.Merge
