import Mathlib
import SchemaGo.Merge.Source
import SchemaGo.Proofs.Go.GeneratedItems
import SchemaGo.Proofs.Naming
import SchemaGo.Proofs.Schema.Validate

/-!
What a merge makes of columns and of values: a field for each column and a constant for each value,
in their order, if and only if no two of them get one name.
-/

namespace SchemaGo.Merge

open Go

variable {t : Table}

/-! ### Fields -/

/-- The field of a column. -/
def columnField (c : Column) : Field := .named (fieldName c.name) (columnType c.type).render

@[simp] lemma address_columnField (c : Column) : (columnField c).address = fieldName c.name := rfl

def columnImports (cs : List Column) : List String :=
  cs.flatMap fun c => (columnType c.type).importPath?.toList

lemma addColumns_eq_ok_iff {cs : List Column} {fs gs : Fields} {seen : List String} :
    addColumns fs seen cs = .ok gs ↔
      ((cs.map (fieldName ·.name)).Nodup ∧ (cs.map (fieldName ·.name)).Disjoint seen) ∧
        gs = ⟨fs.fields ++ cs.map columnField, fs.imports ++ columnImports cs⟩ := by
  induction cs generalizing fs seen with
  | nil => simp [addColumns, columnImports, eq_comm]
  | cons c cs ih =>
    rw [List.map_cons, nodup_and_disjoint_cons]
    simp only [addColumns, List.contains_iff_mem]
    split
    · next h => simp [h]
    · next h =>
      rw [ih, and_iff_right h]
      simp [Fields.add, columnImports, columnField]

/-- Columns have fields if and only if no two of them have the same one. -/
theorem columnFields_eq_ok_iff {cs : List Column} {fs : Fields} :
    columnFields cs = .ok fs ↔
      (cs.map (fieldName ·.name)).Nodup ∧ fs = ⟨cs.map columnField, columnImports cs⟩ := by
  rw [columnFields, addColumns_eq_ok_iff]
  simp

/-- The columns that have no field among `declared`. -/
def undeclared (t : Table) (declared : List String) : List Column :=
  t.columns.filter fun c => !declared.contains (fieldName c.name)

lemma mem_undeclared {declared : List String} {c : Column} :
    c ∈ undeclared t declared ↔ c ∈ t.columns ∧ fieldName c.name ∉ declared := by
  simp [undeclared]

theorem mainFields_eq_ok_iff {declared : List String} {fs : Fields} :
    mainFields t declared = .ok fs ↔
      ((undeclared t declared).map (fieldName ·.name)).Nodup ∧
        fs = ⟨(undeclared t declared).map columnField ++ [.embedded t.extensionName],
          columnImports (undeclared t declared)⟩ := by
  simp only [mainFields, bind, Except.bind, pure, Except.pure]
  rw [← undeclared]
  rcases hfs : columnFields (undeclared t declared) with e | gs
  · have hn : ¬ ((undeclared t declared).map (fieldName ·.name)).Nodup := fun hn => by
      simp [columnFields_eq_ok_iff.mpr ⟨hn, rfl⟩] at hfs
    simp [hn]
  · obtain ⟨hn, rfl⟩ := columnFields_eq_ok_iff.mp hfs
    simp [hn, Fields.add, eq_comm]

/-! ### Names of fields -/

lemma address_container (t : Table) :
    Field.address (.embedded t.extensionName) = t.extensionName := by
  refine embeddedName_eq_self fun c hc => ?_
  rw [Table.extensionName, String.toList_append, List.mem_append] at hc
  rcases hc with hc | hc
  · have hname := Naming.pascalCase_nameChar t.name c hc
    constructor <;> rintro rfl <;> exact absurd hname (by decide)
  · have hall : "Extension".toList.all (fun c => c != '*' && c != '.') = true := by decide
    simpa using List.all_eq_true.mp hall c hc

/-- **No two columns share a field of the main struct, but a column may be called as the container
is.** The fields are those of the columns, and the container under its own name. -/
theorem mainFields_names {declared : List String} {fs : Fields}
    (h : mainFields t declared = .ok fs) :
    ∃ names, names = (undeclared t declared).map (fieldName ·.name) ∧
      structShape t.typeName fs.fields = .struct t.typeName (names ++ [t.extensionName]) ∧
      names.Nodup ∧
      ((names ++ [t.extensionName]).Nodup ↔
        ∀ c ∈ t.columns, fieldName c.name = t.extensionName → fieldName c.name ∈ declared) := by
  obtain ⟨hnodup, rfl⟩ := mainFields_eq_ok_iff.mp h
  refine ⟨_, rfl, ?_, hnodup, ?_⟩
  · simp [structShape, Function.comp_def, address_container]
  · simp only [List.nodup_append, hnodup, List.nodup_singleton, true_and, List.forall_mem_map,
      mem_undeclared, List.forall_mem_singleton, and_imp]
    exact forall₂_congr fun c _ => not_imp_comm.trans (by simp only [ne_eq, not_not])

/-- A table with a column that is called as the container is. -/
def extendedUsers : Table :=
  { name := "users",
    columns := [⟨"id", { name := "integer" }⟩, ⟨"users_extension", { name := "text" }⟩] }

theorem mainFields_names_extendedUsers :
    ∃ fs names, mainFields extendedUsers ["UsersExtension"] = .ok fs ∧
      names = (undeclared extendedUsers ["UsersExtension"]).map (fieldName ·.name) ∧
      structShape extendedUsers.typeName fs.fields =
        .struct extendedUsers.typeName (names ++ [extendedUsers.extensionName]) ∧
      names.Nodup ∧
      ((names ++ [extendedUsers.extensionName]).Nodup ↔
        ∀ c ∈ extendedUsers.columns, fieldName c.name = extendedUsers.extensionName →
          fieldName c.name ∈ ["UsersExtension"]) := by
  have h : mainFields extendedUsers ["UsersExtension"] =
      .ok ⟨[.named "Id" "int32", .embedded "UsersExtension"], []⟩ := by decide
  obtain ⟨names, hnames⟩ := mainFields_names h
  exact ⟨_, names, h, hnames⟩

/-- A new container has no field for the column, and the main struct has two fields of one name. -/
theorem mainFields_extendedUsers :
    ∃ fs names, mainFields extendedUsers [] = .ok fs ∧
      structShape extendedUsers.typeName fs.fields = .struct extendedUsers.typeName names ∧
      ¬ names.Nodup :=
  ⟨⟨[.named "Id" "int32", .named "UsersExtension" "string", .embedded "UsersExtension"], []⟩,
    ["Id", "UsersExtension", "UsersExtension"], by decide, by decide, by decide⟩

/-! ### Members -/

section Members

variable {type : String} {members : List Member}

/-- Each value gets the constant of its place, counted from `i`. -/
lemma membersFrom_eq_ok_iff {i : ℕ} {seen values : List String} :
    membersFrom type i seen values = .ok members ↔
      members = values.mapIdx (fun j v => ⟨memberName type (i + j) v, v⟩) ∧
        (members.map (·.name)).Nodup ∧ (members.map (·.name)).Disjoint seen := by
  induction values generalizing i seen members with
  | nil =>
    simp only [membersFrom, Except.ok.injEq, List.mapIdx_nil]
    constructor
    · rintro rfl
      simp
    · exact fun h => h.1.symm
  | cons v vs ih =>
    have hshift : (v :: vs).mapIdx (fun j v => (⟨memberName type (i + j) v, v⟩ : Member)) =
        ⟨memberName type i v, v⟩ ::
          vs.mapIdx fun j v => ⟨memberName type (i + 1 + j) v, v⟩ := by
      rw [List.mapIdx_cons]
      simp only [Nat.add_zero, Nat.add_assoc, Nat.add_comm 1]
    have hstep : membersFrom type i seen (v :: vs) = .ok members ↔
        memberName type i v ∉ seen ∧
          ∃ ms, membersFrom type (i + 1) (memberName type i v :: seen) vs = .ok ms ∧
            members = ⟨memberName type i v, v⟩ :: ms := by
      simp only [membersFrom, List.contains_iff_mem, bind, Except.bind, pure, Except.pure]
      split
      · next h => simp [h]
      · next h =>
        rcases membersFrom type (i + 1) (memberName type i v :: seen) vs with x | ms
        · simp
        · simp [h, eq_comm]
    rw [hstep, hshift]
    simp only [ih]
    constructor
    · rintro ⟨hseen, ms, ⟨rfl, hnodup, hnew⟩, rfl⟩
      exact ⟨rfl, nodup_and_disjoint_cons.mpr ⟨hseen, hnodup, hnew⟩⟩
    · rintro ⟨rfl, h⟩
      obtain ⟨hseen, hnodup, hnew⟩ := nodup_and_disjoint_cons.mp h
      exact ⟨hseen, _, ⟨rfl, hnodup, hnew⟩, rfl⟩

lemma map_name_mapIdx (values : List String) :
    (values.mapIdx fun i v => (⟨memberName type i v, v⟩ : Member)).map (·.name) =
      values.mapIdx (memberName type) :=
  List.ext_getElem (by simp) (by simp)

/-- Values have constants if and only if no two of them have the same one. -/
theorem enumMembers_eq_ok_iff {values : List String} :
    enumMembers type values = .ok members ↔
      (values.mapIdx (memberName type)).Nodup ∧
        members = values.mapIdx fun i v => ⟨memberName type i v, v⟩ := by
  rw [enumMembers, membersFrom_eq_ok_iff, and_iff_left (List.disjoint_nil_right _), and_comm]
  simp only [Nat.zero_add]
  exact and_congr_left fun h => by rw [h, map_name_mapIdx]

end Members

end SchemaGo.Merge
