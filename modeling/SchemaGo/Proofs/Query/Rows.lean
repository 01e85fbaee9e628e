import Mathlib
import SchemaGo.Proofs.Go.Name
import SchemaGo.Proofs.Merge.Columns
import SchemaGo.Proofs.Query.Calls
import SchemaGo.Proofs.Query.Plain
import SchemaGo.Proofs.Run.Order
import SchemaGo.Proofs.Schema.Validate

/-!
Where the columns of a result go. If the rows have the type of a table, each column goes to a field
that the table has, in its main struct or among those that are written by hand. If they have a type
of their own, that has one field for each column.
-/

namespace SchemaGo

open Go Naming

variable {q : Query} {tables : List Table} {c : Config} {f : QueryFile} {models : String}

/-! ### Which queries are rendered -/

@[simp] lemma Returns.row?_map {α β : Type} (g : α → β) (x : Returns α) :
    (x.map g).row? = x.row?.map g := by
  cases x <;> rfl

lemma repeated?_eq_none_iff {cs : List ResultColumn} {seen : List String} :
    repeated? seen cs = none ↔
      (cs.map (fieldName ·.name)).Nodup ∧ (cs.map (fieldName ·.name)).Disjoint seen := by
  induction cs generalizing seen with
  | nil => simp [repeated?]
  | cons c cs ih =>
    rw [List.map_cons, nodup_and_disjoint_cons]
    simp only [repeated?, List.contains_iff_mem]
    split
    · next h => simp [h]
    · next h => rw [ih, and_iff_right h]

namespace Query

/-- A row type can be made for a query if and only if no two of its columns have the same field. -/
lemma rowFields_eq_ok_iff {fields : List RowField} :
    q.rowFields = .ok fields ↔
      (q.columns.map (fieldName ·.name)).Nodup ∧ fields = q.columns.map (·.rowField) := by
  have hnone : repeated? [] q.columns = none ↔ (q.columns.map (fieldName ·.name)).Nodup := by
    rw [repeated?_eq_none_iff, and_iff_left (List.disjoint_nil_right _)]
  rw [← hnone, rowFields]
  split
  · next r hr => simp [hr]
  · next hr => simp [hr, eq_comm]

lemma row_synthesized_eq_ok_iff {r : Row} :
    q.row models .synthesized = .ok r ↔ (q.columns.map (fieldName ·.name)).Nodup ∧
      r = ⟨pascalCase q.name ++ "Row", some (q.columns.map (·.rowField)),
        (q.columns.map (·.rowField)).map (·.target)⟩ := by
  rw [row]
  rcases hq : q.rowFields with e | fields
  · have hn : ¬ (q.columns.map (fieldName ·.name)).Nodup := fun hn => by
      simp [rowFields_eq_ok_iff.mpr ⟨hn, rfl⟩] at hq
    simp [Except.map, hn]
  · obtain ⟨hn, rfl⟩ := rowFields_eq_ok_iff.mp hq
    simp [Except.map, hn, eq_comm]

lemma exists_returns_iff {plan : Returns RowBinding} {b : RowBinding} (hb : plan.row? = some b) :
    (∃ returns, q.returns models plan = .ok returns) ↔ ∃ r, q.row models b = .ok r := by
  cases plan with
  | one b' | many b' =>
    obtain rfl : b' = b := Option.some.inj hb
    rcases hr : q.row models b' with e | r <;> simp [returns, hr]
  | errorOnly | affectedRows => simp [Returns.row?] at hb

/-- A query with rows is rendered if and only if its rows can be read. -/
lemma exists_file_iff {b : RowBinding} (hb : (q.plan tables).row? = some b) :
    (∃ f, q.file tables c = .ok f) ↔ ∃ r, q.row c.modelsPackage b = .ok r := by
  rw [← exists_returns_iff hb, file]
  rcases hr : q.returns c.modelsPackage (q.plan tables) with e | returns
  · simp [bind, Except.bind]
  · simp [bind, Except.bind, pure, Except.pure]

/-- The rows of a query that has been rendered are read as its plan says. -/
lemma returns_of_file (hf : q.file tables c = .ok f) :
    ∃ row : RowBinding → Row, f.returns = (q.plan tables).map row ∧
      ∀ b, (q.plan tables).row? = some b → q.row c.modelsPackage b = .ok (row b) := by
  obtain ⟨returns, hreturns, -, -, -, -, -, -, -, rfl⟩ := file_eq_ok hf
  cases hplan : q.plan tables with
  | one b | many b =>
    rw [hplan] at hreturns
    rcases hr : q.row c.modelsPackage b with e | r
    · simp [Query.returns, hr] at hreturns
    · have heq : f.returns = (Returns.map (fun _ => r) (q.plan tables)) := by
        simpa [Query.returns, hr, hplan, Returns.map, eq_comm] using hreturns
      refine ⟨fun _ => r, hplan ▸ heq, ?_⟩
      rintro b' ⟨rfl⟩
      exact hr
  | errorOnly | affectedRows =>
    rw [hplan] at hreturns
    exact ⟨fun _ => ⟨"", none, []⟩, (Except.ok.inj hreturns).symm, by simp [Returns.row?]⟩

lemma row_of_file (hf : q.file tables c = .ok f) {b : RowBinding}
    (hb : (q.plan tables).row? = some b) :
    ∃ r, f.returns.row? = some r ∧ q.row c.modelsPackage b = .ok r := by
  obtain ⟨row, hreturns, hrow⟩ := returns_of_file hf
  exact ⟨row b, by rw [hreturns, Returns.row?_map, hb]; rfl, hrow b hb⟩

lemma exists_row_of_file (hf : q.file tables c = .ok f) {r : Row} (hr : f.returns.row? = some r) :
    ∃ b, (q.plan tables).row? = some b ∧ q.row c.modelsPackage b = .ok r := by
  obtain ⟨row, hreturns, hrow⟩ := returns_of_file hf
  rw [hreturns, Returns.row?_map, Option.map_eq_some_iff] at hr
  obtain ⟨b, hb, rfl⟩ := hr
  exact ⟨b, hb, hrow b hb⟩

lemma sameNames_of_plan {t : Table} (h : (q.plan tables).row? = some (.table t)) :
    sameNames (t.columns.map (·.name)) (q.columns.map (·.name)) = true := by
  have hr := reusable?_of_plan h
  unfold reusable? at hr
  split at hr
  · simp at hr
  · have hfound := List.find?_some hr
    exact hfound

/-- The columns of a query whose rows have the type of a table are columns of the table. -/
lemma mem_columns_of_plan {t : Table} (h : (q.plan tables).row? = some (.table t))
    {r : ResultColumn} (hr : r ∈ q.columns) : ∃ column ∈ t.columns, column.name = r.name := by
  have hsame := sameNames_of_plan h
  rw [sameNames_iff, Finset.ext_iff] at hsame
  simpa using (hsame r.name).mpr (by simpa using ⟨r, hr, rfl⟩)

end Query

/-! ### Rows of a table -/

/-- The row has the type of the table. Its columns go, in their order, to fields of that type,
whatever fields are declared by hand in the container. -/
structure Row.FitsTable (q : Query) (t : Table) (models : String) (r : Row) : Prop where
  type : r.type = models ++ "." ++ t.typeName
  undeclared : r.fields? = none
  targets : r.targets = q.columns.map fun column => .field (fieldName column.name)
  fields : ∀ declared fs, Merge.mainFields t declared = .ok fs → ∀ column ∈ q.columns,
    fieldName column.name ∈ declared ∨
      ∃ type, .named (fieldName column.name) type ∈ fs.fields

lemma Row.fitsTable {t : Table} (h : (q.plan tables).row? = some (.table t)) {r : Row}
    (hr : q.row models (.table t) = .ok r) : r.FitsTable q t models := by
  obtain rfl := Except.ok.inj hr
  refine ⟨rfl, rfl, rfl, fun declared fs hfs column hcolumn => ?_⟩
  obtain ⟨d, hd, hname⟩ := Query.mem_columns_of_plan h hcolumn
  obtain ⟨-, rfl⟩ := Merge.mainFields_eq_ok_iff.mp hfs
  rw [← hname]
  by_cases hmem : fieldName d.name ∈ declared
  · exact .inl hmem
  · have hfield := List.mem_map_of_mem (f := Merge.columnField)
      (Merge.mem_undeclared.mpr ⟨hd, hmem⟩)
    exact .inr ⟨_, List.mem_append_left _ hfield⟩

/-! ### Rows with a type of their own -/

/-- The table whose rows the column aggregates. -/
def ResultColumn.element? (r : ResultColumn) : Option String :=
  if r.isJsonAggregate then r.elementTable else none

/-- The column is read into the field: as it is, or, if it aggregates rows, through bytes of its
own into a slice of their type. -/
def ResultColumn.ReadsInto (models : String) (r : ResultColumn) (x : RowField) : Prop :=
  x.name = fieldName r.name ∧
    match r.element? with
    | none => x.target = .field x.name ∧ x.type = Merge.columnType r.type
    | some element => x.target = .decoded (argumentName (r.name ++ "_raw")) x.name ∧
        x.type.qualified models = "[]" ++ models ++ "." ++ pascalCase element

/-- The bytes that are decoded. -/
def Target.bytes? : Target → Option String
  | .field _ => none
  | .decoded bytes _ => some bytes

/-- The row has a type of its own, with a field for each column, in their order. No two columns
share a field, and if their names are ASCII no two of them share bytes. -/
structure Row.FitsColumns (q : Query) (models : String) (fields : List RowField) (r : Row) :
    Prop where
  type : r.type = pascalCase q.name ++ "Row"
  declared : r.fields? = some fields
  columns : List.Forall₂ (ResultColumn.ReadsInto models) q.columns fields
  distinct : (fields.map (·.name)).Nodup
  targets : r.targets = fields.map (·.target)
  bytes : (∀ column ∈ q.columns, column.element?.isSome → isAsciiText column.name = true) →
    (r.targets.filterMap Target.bytes?).Nodup

lemma ResultColumn.rowField_of_none {r : ResultColumn} (h : r.element? = none) :
    r.rowField =
      ⟨fieldName r.name, Merge.columnType r.type, .field (fieldName r.name)⟩ := by
  unfold rowField element? at *
  split
  · next element ha he => simp [ha, he] at h
  · rfl

lemma ResultColumn.rowField_of_some {r : ResultColumn} {element : String}
    (h : r.element? = some element) :
    r.rowField = ⟨fieldName r.name, (ColumnType.user element).sliceOf,
      .decoded (argumentName (r.name ++ "_raw")) (fieldName r.name)⟩ := by
  have ha : r.isJsonAggregate = true := by
    by_contra ha
    simp [element?, ha] at h
  have he : r.elementTable = some element := by simpa [element?, ha] using h
  simp only [rowField, ha, he]

lemma ResultColumn.readsInto_rowField (models : String) (r : ResultColumn) :
    r.ReadsInto models r.rowField := by
  unfold ReadsInto
  cases he : r.element? with
  | none =>
    simp [rowField_of_none he]
  | some element =>
    simp [rowField_of_some he, ColumnType.qualified, ColumnType.sliceOf, ColumnType.user,
      ColumnType.marks, ColumnType.isUser, BaseType.text, String.append_assoc]

@[simp] lemma ResultColumn.name_rowField (r : ResultColumn) : r.rowField.name = fieldName r.name :=
  (r.readsInto_rowField "").1

lemma ResultColumn.bytes?_rowField (r : ResultColumn) :
    r.rowField.target.bytes? = r.element?.map fun _ => argumentName (r.name ++ "_raw") := by
  obtain ⟨-, h⟩ := r.readsInto_rowField ""
  rcases he : r.element? with _ | element <;> rw [he] at h <;> rw [h.1] <;> rfl

/-- Columns with ASCII names and fields of their own have bytes of their own. -/
lemma nodup_bytes {cs : List ResultColumn} (hn : (cs.map (fieldName ·.name)).Nodup)
    (hascii : ∀ r ∈ cs, r.element?.isSome → isAsciiText r.name = true) :
    (cs.filterMap (·.rowField.target.bytes?)).Nodup := by
  refine List.pairwise_filterMap.mpr ((List.pairwise_map.mp hn).imp_of_mem ?_)
  rintro r s hr hs hne b hb b' hb' rfl
  rw [ResultColumn.bytes?_rowField, Option.map_eq_some_iff] at hb hb'
  obtain ⟨element, he, rfl⟩ := hb
  obtain ⟨element', he', heq⟩ := hb'
  exact hne (fieldName_of_argumentName_append_raw (hascii r hr (by simp [he]))
    (hascii s hs (by simp [he'])) heq.symm)

lemma Row.fitsColumns {r : Row} (hr : q.row models .synthesized = .ok r) :
    r.FitsColumns q models (q.columns.map (·.rowField)) := by
  obtain ⟨hn, rfl⟩ := Query.row_synthesized_eq_ok_iff.mp hr
  refine ⟨rfl, rfl, ?_, ?_, rfl, fun hascii => ?_⟩
  · exact List.forall₂_map_right_iff.mpr
      (List.forall₂_same.mpr fun column _ => column.readsInto_rowField models)
  · simpa only [List.map_map, Function.comp_def, ResultColumn.name_rowField] using hn
  · simpa only [List.filterMap_map, Function.comp_def] using nodup_bytes hn hascii

/-- The row type stands in the file. -/
lemma QueryFile.standsIn_rowType {r : Row} (hr : f.returns.row? = some r)
    {fields : List RowField} (hfields : r.fields? = some fields) :
    StandsIn (renderStruct r.type (fields.map fun x => .named x.name (x.type.qualified f.models)))
      f.render := by
  have hrow : f.renderRowType = "\n" ++ renderStruct r.type
      (fields.map fun x => .named x.name (x.type.qualified f.models)) ++ "\n" := by
    obtain ⟨type, fields?, targets⟩ := r
    obtain rfl : fields? = some fields := hfields
    simp [renderRowType, hr]
  have hstands : StandsIn (renderStruct r.type
      (fields.map fun x => .named x.name (x.type.qualified f.models))) f.renderRowType := by
    rw [hrow]
    exact (StandsIn.refl _).right.left
  unfold render
  iterate 14 apply StandsIn.left
  exact hstands.right

/-- **Each column is read into a field of the row.** A query whose rows have the type of a table is
always rendered. One whose rows have a type of their own is rendered if and only if no two of its
columns have the same field, and its file declares that type. -/
theorem Query.row_fits (q : Query) (tables : List Table) (c : Config) :
    (∀ t, (q.plan tables).row? = some (.table t) →
      ∃ f r, q.file tables c = .ok f ∧ f.returns.row? = some r ∧
        r.FitsTable q t c.modelsPackage ∧ f.ReadsRow r) ∧
    ((q.plan tables).row? = some .synthesized →
      ((∃ f, q.file tables c = .ok f) ↔ (q.columns.map (fieldName ·.name)).Nodup) ∧
      ∀ f, q.file tables c = .ok f → ∃ r fields, f.returns.row? = some r ∧
        r.FitsColumns q c.modelsPackage fields ∧ f.ReadsRow r ∧
        StandsIn (renderStruct r.type
          (fields.map fun x => .named x.name (x.type.qualified c.modelsPackage))) f.render) := by
  refine ⟨fun t ht => ?_, fun hb => ⟨?_, fun f hf => ?_⟩⟩
  · obtain ⟨f, hf⟩ := (exists_file_iff (c := c) ht).mpr ⟨_, rfl⟩
    obtain ⟨r, hr, hrow⟩ := row_of_file hf ht
    exact ⟨f, r, hf, hr, Row.fitsTable ht hrow, QueryFile.readsRow hr⟩
  · rw [exists_file_iff hb]
    constructor
    · rintro ⟨r, hr⟩
      exact (row_synthesized_eq_ok_iff.mp hr).1
    · exact fun hn => ⟨_, row_synthesized_eq_ok_iff.mpr ⟨hn, rfl⟩⟩
  · obtain ⟨r, hr, hrow⟩ := row_of_file hf hb
    have hfits := Row.fitsColumns hrow
    obtain ⟨-, -, -, hmodels, -⟩ := file_eq_ok hf
    rw [← hmodels] at hfits ⊢
    exact ⟨r, _, hr, hfits, QueryFile.readsRow hr, QueryFile.standsIn_rowType hr hfits.declared⟩

def authors : Table where
  name := "authors"
  columns := [⟨"id", { name := "integer" }⟩, ⟨"pen_name", { name := "text" }⟩]

/-- The columns of `authors` in another order, and one of them twice. -/
def listAuthors : Query where
  name := "list_authors"
  shape := .rows
  columns := [{ name := "pen_name", type := { name := "text" } },
    { name := "id", type := { name := "integer" } },
    { name := "pen_name", type := { name := "text" } }]
  sql := "SELECT pen_name, id, pen_name FROM authors"

/-- An author with two aggregates. -/
def findAuthor : Query where
  name := "find_author"
  shape := .row
  columns := [{ name := "id", type := { name := "integer" } },
    { name := "books", type := { name := "json" }, isJsonAggregate := true,
      elementTable := some "books" },
    { name := "blog_posts", type := { name := "json" }, isJsonAggregate := true,
      elementTable := some "posts" }]
  sql := "SELECT id, books, blog_posts FROM author_pages"

theorem row_fits_authors :
    (∃ f r, listAuthors.file [authors] { output := "out" } = .ok f ∧
      r.FitsTable listAuthors authors "models" ∧ f.ReadsRow r ∧
      QueryFile.scanArguments r = "&i.PenName, &i.Id, &i.PenName") ∧
    ∃ f r fields, findAuthor.file [authors] { output := "out" } = .ok f ∧
      r.FitsColumns findAuthor "models" fields ∧ f.ReadsRow r ∧
      (r.targets.filterMap Target.bytes?).Nodup := by
  constructor
  · obtain ⟨hbound, -⟩ := Query.row_fits listAuthors [authors] { output := "out" }
    obtain ⟨f, r, hf, -, hfits, hreads⟩ := hbound authors (by decide +kernel)
    refine ⟨f, r, hf, hfits, hreads, ?_⟩
    rw [QueryFile.scanArguments, hfits.targets]
    decide +kernel
  · obtain ⟨-, hown⟩ := Query.row_fits findAuthor [authors] { output := "out" }
    obtain ⟨hok, hrows⟩ := hown (by decide +kernel)
    obtain ⟨f, hf⟩ := hok.mpr (by decide +kernel)
    obtain ⟨r, fields, -, hfits, hreads, -⟩ := hrows f hf
    exact ⟨f, r, fields, hf, hfits, hreads, hfits.bytes (by decide +kernel)⟩

end SchemaGo
