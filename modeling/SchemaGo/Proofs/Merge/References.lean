import Mathlib
import SchemaGo.Proofs.Go.ColumnType
import SchemaGo.Proofs.Merge.History
import SchemaGo.Proofs.Schema.Catalog

/-!
Columns that refer to items of the schema. The merge of an item declares a type under the name of
the item in Pascal case, and a column whose type has that name refers to it by the same name, unless
the name is taken for one of the catalog.
-/

namespace SchemaGo.Merge

open Go Schema Schema.DataType

variable {f g : File} {m : Model} {type name : String} {cs : List Change}

/-! ### The declared types -/

/-- The declaration is the type that stands for the item: a string type for an enum, a struct for
all else. -/
def Model.DeclaredBy (type : String) (d : Decl) : Model → Prop
  | .enum _ => d.shape = .named type "string"
  | .table _ | .composite _ => ∃ fields, d.shape = .struct type fields

lemma Rewrites.mem_decls (h : Rewrites cs f g) {c : Change} {d : Decl} (hc : c ∈ cs)
    (hd : c.after = some d) : d ∈ g.decls := by
  rw [← h.after]
  exact List.mem_filterMap.mpr ⟨c, hc, hd⟩

lemma EnumChanges.exists_typeChange {members : List Member}
    (h : EnumChanges type members cs) : ∃ c ∈ cs, TypeChange type c := by
  cases h with
  | noBlock l₁ l₂ c typed => exact ⟨c, by simp, typed⟩
  | insertedType => exact ⟨_, by simp, .inserted⟩
  | blockBehind l₁ l₂ l₃ d b shape => exact ⟨.kept d true, by simp, .kept d shape⟩
  | blockBefore l₁ l₂ l₃ b d shape => exact ⟨.kept d true, by simp, .kept d shape⟩

lemma CompositeChanges.exists_struct {fields : List Field} (h : CompositeChanges type fields cs) :
    ∃ c ∈ cs, ∃ d, c.after = some d ∧ d.managed = true ∧ d.shape = structShape type fields := by
  cases h <;> exact ⟨_, List.mem_append_right _ List.mem_cons_self, _, rfl, rfl, rfl⟩

lemma TableChanges.exists_struct {t : Table} {fields : List Field} (h : TableChanges t fields cs) :
    ∃ c ∈ cs, ∃ d, c.after = some d ∧ d.managed = true ∧
      d.shape = structShape t.typeName fields := by
  cases h with
  | replaced l₁ l₂ d | replacedBehind l₁ l₂ l₃ d | replacedBefore l₁ l₂ l₃ d =>
    exact ⟨.replaced d (renderStruct t.typeName fields) (structShape t.typeName fields), by simp, _,
      rfl, rfl, rfl⟩
  | insertedMain | insertedBoth =>
    exact ⟨.inserted (.generated (renderStruct t.typeName fields) (structShape t.typeName fields)),
      by simp, _, rfl, rfl, rfl⟩

/-- **A merge declares the type of its item.** -/
theorem merge_declares_type (h : m.merge f = .ok g) :
    ∃ d ∈ g.decls, d.managed = true ∧ m.DeclaredBy m.typeName d := by
  cases m with
  | enum e =>
    obtain ⟨cs, members, hr, -, hcs⟩ := mergeEnum_changes h
    obtain ⟨c, hc, htype⟩ := hcs.exists_typeChange
    obtain ⟨d, hd, hshape, hmanaged⟩ := htype.exists_after
    exact ⟨d, hr.mem_decls hc hd, hmanaged, hshape⟩
  | table t =>
    obtain ⟨cs, -, fs, hr, -, hcs⟩ := mergeTable_changes h
    obtain ⟨c, hc, d, hd, hmanaged, hshape⟩ := hcs.exists_struct
    exact ⟨d, hr.mem_decls hc hd, hmanaged, _, hshape⟩
  | composite k =>
    obtain ⟨cs, fs, hr, -, hcs⟩ := mergeComposite_changes h
    obtain ⟨c, hc, d, hd, hmanaged, hshape⟩ := hcs.exists_struct
    exact ⟨d, hr.mem_decls hc hd, hmanaged, _, hshape⟩

lemma typeName_eq (m : Model) : m.typeName = Naming.pascalCase m.name := by
  cases m <;> rfl

/-! ### References -/

lemma columnType_of_custom (h : DataType.ofName name = (.custom name, false))
    (isArray isNullable : Bool) :
    ColumnType.ofName name isArray isNullable =
      { ColumnType.user name with slice := isArray, pointer := isNullable && !isArray } := by
  rw [columnType_eq h, Bool.or_false]
  simp [ColumnType.user, BaseType.ofDataType, BaseType.nilSafe]

/-- What begins with `timestamp` has the Go type of all types of time. -/
lemma base_of_timestamp (h : isLowerName name = true) (hp : "timestamp".toList <+: name.toList)
    (isArray isNullable : Bool) :
    (ColumnType.ofName name isArray isNullable).base = .time := by
  rw [columnType_eq (ofName_plain h)]
  rcases builtin?_timestamp hp with hb | hb <;> rw [hb] <;> rfl

/-- **A column refers to the item that its type names.** A plain name that the catalog does not list
is the name of an item, and the type of the column is what the merge of any such item declares,
exactly if the name does not begin with `timestamp`. Those names are taken for types of time. -/
theorem columnType_refers (h : isLowerName name = true) (hn : name ∉ catalogNames)
    (isArray isNullable : Bool) :
    let t := ColumnType.ofName name isArray isNullable
    ((t = { ColumnType.user name with slice := isArray, pointer := isNullable && !isArray } ∧
        ∀ (m : Model) (f g : File), m.name = name → m.merge f = .ok g →
          ∃ d ∈ g.decls, d.managed = true ∧ m.DeclaredBy t.base.text d) ↔
      ¬ "timestamp".toList <+: name.toList) ∧
    ("timestamp".toList <+: name.toList → t.base = .time) := by
  intro t
  refine ⟨⟨fun ht hp => ?_, fun hp => ?_⟩, fun hp => base_of_timestamp h hp isArray isNullable⟩
  · -- a type of the models package is no type of time
    have hbase : t.base = .time := base_of_timestamp h hp isArray isNullable
    rw [ht.1] at hbase
    exact BaseType.noConfusion hbase
  · have ht : t = { ColumnType.user name with
        slice := isArray, pointer := isNullable && !isArray } :=
      columnType_of_custom ((ofName_eq_custom_iff h).mpr ⟨hn, hp⟩) isArray isNullable
    refine ⟨ht, fun m f g hm hg => ?_⟩
    have htype : t.base.text = m.typeName := by
      rw [ht, typeName_eq, hm]
      rfl
    rw [htype]
    exact merge_declares_type hg

/-- An enum with the values in which an order can be. -/
def orderStatus : EnumType := ⟨"order_status", ["open", "sent"]⟩

theorem columnType_refers_orderStatus :
    isLowerName "order_status" = true ∧ "order_status" ∉ catalogNames ∧
      ¬ "timestamp".toList <+: "order_status".toList ∧
      ColumnType.ofName "order_status" false true =
        { ColumnType.user "order_status" with pointer := true } ∧
      ∃ g, (Model.enum orderStatus).merge (.empty "models") = .ok g ∧
        ∃ d ∈ g.decls, d.managed = true ∧ d.shape = .named "OrderStatus" "string" := by
  have hname : isLowerName "order_status" = true := by decide
  have hlisted : "order_status" ∉ catalogNames := by decide
  have hstamp : ¬ "timestamp".toList <+: "order_status".toList := by decide
  obtain ⟨ht, hdeclared⟩ := (columnType_refers hname hlisted false true).1.mpr hstamp
  refine ⟨hname, hlisted, hstamp, ht, ?_⟩
  have hok : ((Model.enum orderStatus).merge (.empty "models")).isOk = true := by decide
  rcases hg : (Model.enum orderStatus).merge (.empty "models") with e | g
  · rw [hg] at hok
    exact absurd hok Bool.false_ne_true
  · obtain ⟨d, hd, hmanaged, hshape⟩ := hdeclared (.enum orderStatus) (.empty "models") g rfl hg
    rw [ht] at hshape
    exact ⟨g, rfl, d, hd, hmanaged, hshape.trans (by decide)⟩

/-- The kinds that a time stamp can have. -/
def timestampKind : EnumType := ⟨"timestamp_kind", ["created"]⟩

/-- An enum whose name begins with `timestamp` is declared, but its columns do not refer to it. -/
theorem columnType_timestampKind :
    isLowerName "timestamp_kind" = true ∧ "timestamp_kind" ∉ catalogNames ∧
      mergeSource (.enum timestampKind) none "models" =
        .ok ("package models\n\ntype TimestampKind string\n\n" ++
          "const (\n\tTimestampKindCreated TimestampKind = \"created\"\n)\n") ∧
      ColumnType.ofName "timestamp_kind" false false = { base := .time } := by
  have hname : isLowerName "timestamp_kind" = true := by decide
  refine ⟨hname, by decide, by decide +kernel, ?_⟩
  rw [columnType_eq (ofName_plain hname)]
  decide

end SchemaGo.Merge
