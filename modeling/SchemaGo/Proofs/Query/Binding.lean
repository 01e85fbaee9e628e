import Mathlib
import SchemaGo.Proofs.Query.Arguments
import SchemaGo.Proofs.Query.Rows

/-!
Which table a query takes the type of its rows from. It is the first one whose columns are called
as those of the query, so neither the order of columns matters nor how often one is there; and the
order in which parameters are listed does not matter for the file.
-/

namespace SchemaGo

open Go

variable {q : Query} {tables tables' : List Table} {c : Config} {t t' : Table} {i : ℕ}

namespace Query

/-- The set of the names of the columns. -/
def columnNames (q : Query) : Finset String := (q.columns.map (·.name)).toFinset

/-- The query gives back rows. -/
def HasRows (q : Query) : Prop := q.shape = .row ∨ q.shape = .rows

/-- The rows of the query fit the table at the place `i`, and none of the tables before it. -/
structure Binds (q : Query) (tables : List Table) (i : ℕ) (t : Table) : Prop where
  rows : q.HasRows
  columns : q.columns ≠ []
  plain : ∀ column ∈ q.columns, column.isJsonAggregate = false
  place : tables[i]? = some t
  names : t.columnNames = q.columnNames
  first : ∀ u ∈ tables.take i, u.columnNames ≠ q.columnNames

/-! ### The first table that fits -/

lemma find?_eq_some_iff_place {α : Type} {p : α → Bool} {xs : List α} {x : α} :
    xs.find? p = some x ↔ ∃ i : ℕ, xs[i]? = some x ∧ p x = true ∧ ∀ y ∈ xs.take i, p y = false := by
  rw [List.find?_eq_some_iff_append]
  constructor
  · rintro ⟨hx, as, bs, rfl, has⟩
    exact ⟨as.length, by simp, hx, by simpa using has⟩
  · rintro ⟨i, hi, hx, hbefore⟩
    obtain ⟨hlt, rfl⟩ := List.getElem?_eq_some_iff.mp hi
    refine ⟨hx, xs.take i, xs.drop (i + 1), ?_, by simpa using hbefore⟩
    rw [← List.drop_eq_getElem_cons hlt, List.take_append_drop]

lemma reusable?_eq_some_iff : q.reusable? tables = some t ↔
    q.columns ≠ [] ∧ (∀ column ∈ q.columns, column.isJsonAggregate = false) ∧
      ∃ i : ℕ, tables[i]? = some t ∧ t.columnNames = q.columnNames ∧
        ∀ u ∈ tables.take i, u.columnNames ≠ q.columnNames := by
  have hsame : ∀ u : Table, sameNames (u.columns.map (·.name)) (q.columns.map (·.name)) = true ↔
      u.columnNames = q.columnNames := fun u => sameNames_iff
  unfold reusable?
  split
  · next h =>
    simp only [reduceCtorEq, false_iff, not_and]
    rintro hne hplain
    rcases Bool.or_eq_true_iff.mp h with hany | hempty
    · obtain ⟨column, hcolumn, ha⟩ := List.any_eq_true.mp hany
      rw [hplain column hcolumn] at ha
      exact absurd ha Bool.false_ne_true
    · exact absurd (List.isEmpty_iff.mp hempty) hne
  · next h =>
    simp only [Bool.or_eq_true, not_or, List.any_eq_true, not_exists, not_and,
      Bool.not_eq_true, List.isEmpty_eq_false_iff] at h
    rw [and_iff_right h.2, and_iff_right h.1, find?_eq_some_iff_place]
    simp only [← Bool.not_eq_true, hsame, ne_eq]

lemma row?_plan (q : Query) (tables : List Table) (h : q.HasRows) :
    (q.plan tables).row? = some (q.binding tables) := by
  unfold plan
  rcases h with h | h <;> rw [h] <;> rfl

lemma row?_plan_of_not_hasRows (h : ¬ q.HasRows) : (q.plan tables).row? = none := by
  unfold plan
  split
  · next hs => exact absurd (.inl hs) h
  · next hs => exact absurd (.inr hs) h
  · rfl
  · rfl

lemma binding_eq_table_iff : q.binding tables = .table t ↔ q.reusable? tables = some t := by
  unfold binding
  cases q.reusable? tables <;> simp

lemma plan_eq_table_iff :
    (q.plan tables).row? = some (.table t) ↔ ∃ i, q.Binds tables i t := by
  constructor
  · intro h
    by_cases hrows : q.HasRows
    · rw [row?_plan q tables hrows, Option.some_inj, binding_eq_table_iff,
        reusable?_eq_some_iff] at h
      obtain ⟨hcolumns, hplain, i, hplace, hnames, hfirst⟩ := h
      exact ⟨i, hrows, hcolumns, hplain, hplace, hnames, hfirst⟩
    · rw [row?_plan_of_not_hasRows hrows] at h
      simp at h
  · rintro ⟨i, h⟩
    rw [row?_plan q tables h.rows, Option.some_inj, binding_eq_table_iff, reusable?_eq_some_iff]
    exact ⟨h.columns, h.plain, i, h.place, h.names, h.first⟩

/-! ### Other orders -/

/-- The plan of a query can be told from the members of its columns. -/
lemma plan_congr_columns {columns : List ResultColumn}
    (h : ∀ column, column ∈ columns ↔ column ∈ q.columns) :
    ({ q with columns } : Query).plan tables = q.plan tables := by
  have hany : columns.any (·.isJsonAggregate) = q.columns.any (·.isJsonAggregate) := by
    rw [Bool.eq_iff_iff]
    simp [h]
  have hempty : columns.isEmpty = q.columns.isEmpty := by
    rw [Bool.eq_iff_iff]
    simp [List.eq_nil_iff_forall_not_mem, h]
  have hsame : ∀ xs, sameNames xs (columns.map (·.name)) =
      sameNames xs (q.columns.map (·.name)) := by
    intro xs
    have hnames : (columns.map (·.name)).toFinset = (q.columns.map (·.name)).toFinset := by
      ext name
      simp [h]
    rw [Bool.eq_iff_iff, sameNames_iff, sameNames_iff, hnames]
  simp only [plan, binding, reusable?, hany, hempty, hsame]

end Query

/-- The two tables have the same columns, in whatever order. -/
def Table.Reorders (t t' : Table) : Prop := t.columns.Perm t'.columns

lemma Table.Reorders.columnNames (h : t.Reorders t') : t'.columnNames = t.columnNames :=
  List.toFinset_eq_of_perm _ _ (h.symm.map _)

lemma map_columnNames_of_reorders (h : List.Forall₂ Table.Reorders tables tables') :
    tables'.map Table.columnNames = tables.map Table.columnNames := by
  induction h with
  | nil => rfl
  | cons ht _ ih => rw [List.map_cons, List.map_cons, ht.columnNames, ih]

namespace Query

/-- The names before a place, and the one that is there, are all that matters for the place. -/
lemma Binds.of_columnNames (h : q.Binds tables i t)
    (hnames : tables'.map Table.columnNames = tables.map Table.columnNames)
    (hplace : tables'[i]? = some t') : q.Binds tables' i t' where
  rows := h.rows
  columns := h.columns
  plain := h.plain
  place := hplace
  names := by
    have hi := congrArg (·[i]?) hnames
    simp only [List.getElem?_map, hplace, h.place, Option.map_some, Option.some_inj] at hi
    exact hi.trans h.names
  first := by
    intro u hu hsame
    have hmem : q.columnNames ∈ (tables.map Table.columnNames).take i := by
      rw [← hnames, ← List.map_take]
      exact List.mem_map.mpr ⟨u, hu, hsame⟩
    rw [← List.map_take] at hmem
    obtain ⟨v, hv, hv'⟩ := List.mem_map.mp hmem
    exact h.first v hv hv'

/-- The file of a query is the same in whatever order its parameters are listed, as long as no two
of them have the same position. -/
lemma file_perm (hn : (q.parameters.map (·.position)).Nodup) {parameters : List Parameter}
    (h : parameters.Perm q.parameters) :
    ({ q with parameters } : Query).file tables c = q.file tables c := by
  have hordered : ({ q with parameters } : Query).orderedParameters = q.orderedParameters :=
    orderedParameters_eq (q.orderedParameters_perm.trans h.symm)
      (orderedParameters_pairwise hn)
  have hreturns : ∀ plan, ({ q with parameters } : Query).returns c.modelsPackage plan =
      q.returns c.modelsPackage plan := fun plan => by cases plan <;> rfl
  have hplan : ({ q with parameters } : Query).plan tables = q.plan tables := rfl
  simp only [file, hordered, hreturns, hplan]

/-- **Which table a query is bound to.** A query with rows takes the type of a table if and only if
it has columns, aggregates none of them, and the table is the first with the same set of names;
else it has a type of its own. What is bound does not depend on the order of columns, on either
side, nor on how often a query has one, and the file of a query of a loaded schema does not depend
on the order of its parameters. -/
theorem plan_binds (q : Query) (tables : List Table) (c : Config) :
    (∀ t, (q.plan tables).row? = some (.table t) ↔ ∃ i, q.Binds tables i t) ∧
    ((q.plan tables).row? = some .synthesized ↔ q.HasRows ∧ ¬ ∃ i t, q.Binds tables i t) ∧
    ((q.plan tables).row? = none ↔ q.shape = .exec ∨ q.shape = .execRows) ∧
    (∀ columns, (∀ column, column ∈ columns ↔ column ∈ q.columns) →
      ({ q with columns } : Query).plan tables = q.plan tables) ∧
    (∀ tables', List.Forall₂ Table.Reorders tables tables' → ∀ i t t', tables[i]? = some t →
      tables'[i]? = some t' → (q.Binds tables i t ↔ q.Binds tables' i t')) ∧
    ∀ text s, Schema.ofJson text = .ok s → q ∈ s.queries → ∀ parameters,
      parameters.Perm q.parameters →
        ({ q with parameters } : Query).file tables c = q.file tables c := by
  refine ⟨fun t => plan_eq_table_iff, ?_, ?_, fun columns => plan_congr_columns, ?_, ?_⟩
  · by_cases hrows : q.HasRows
    · rw [and_iff_right hrows]
      simp only [exists_comm (α := ℕ), ← plan_eq_table_iff, row?_plan q tables hrows,
        Option.some_inj]
      cases q.binding tables <;> simp
    · simp [row?_plan_of_not_hasRows hrows, hrows]
  · unfold plan
    cases q.shape <;> simp [Returns.row?]
  · intro tables' h i t t' ht ht'
    have hnames := map_columnNames_of_reorders h
    exact ⟨fun hb => hb.of_columnNames hnames ht', fun hb => hb.of_columnNames hnames.symm ht⟩
  · intro text s hs hq parameters h
    exact file_perm (Schema.numbered_of_ofJson hs hq).distinct h

end Query

/-- The columns of `authors` in another order, one of them twice, with the last parameter first. -/
def filterAuthors : Query where
  name := "filter_authors"
  parameters := [⟨"limit", { name := "integer" }, 2⟩, ⟨"pen_name", { name := "text" }, 1⟩]
  shape := .rows
  columns := listAuthors.columns
  sql := "SELECT pen_name, id, pen_name FROM authors WHERE pen_name = $1 LIMIT $2"

/-- The schema of `filterAuthors`. Its records are written as arrays. -/
def filterAuthorsJson : String :=
  r#"["public",[],[],[],[["filter_authors",[["limit",["integer"],2],["pen_name",["text"],1]],"# ++
    r#""rows",[["pen_name",["text"]],["id",["integer"]],["pen_name",["text"]]],"# ++
    r#""SELECT pen_name, id, pen_name FROM authors WHERE pen_name = $1 LIMIT $2"]]]"#

lemma ofJson_filterAuthorsJson :
    Schema.ofJson filterAuthorsJson = .ok { queries := [filterAuthors] } := by
  decide +kernel

theorem plan_binds_filterAuthors :
    filterAuthors.Binds [authors] 0 authors ∧
      (filterAuthors.plan [authors]).row? = some (.table authors) ∧
      ({ filterAuthors with columns := filterAuthors.columns.reverse } : Query).plan [authors] =
        filterAuthors.plan [authors] ∧
      filterAuthors.Binds [{ authors with columns := authors.columns.reverse }] 0
        { authors with columns := authors.columns.reverse } ∧
      ({ filterAuthors with parameters := filterAuthors.parameters.reverse } : Query).file
          [authors] { output := "out" } =
        filterAuthors.file [authors] { output := "out" } := by
  obtain ⟨htable, -, -, hcolumns, htables, hparameters⟩ :=
    filterAuthors.plan_binds [authors] { output := "out" }
  have hbinds : filterAuthors.Binds [authors] 0 authors :=
    ⟨.inr rfl, by decide, by decide, rfl, by decide +kernel, by simp⟩
  have hreorders : List.Forall₂ Table.Reorders [authors]
      [{ authors with columns := authors.columns.reverse }] :=
    .cons (List.reverse_perm _).symm .nil
  exact ⟨hbinds, (htable authors).mpr ⟨0, hbinds⟩, hcolumns _ fun column => List.mem_reverse,
    (htables _ hreorders 0 _ _ rfl rfl).mp hbinds,
    hparameters _ _ ofJson_filterAuthorsJson (List.mem_singleton_self _) _ (List.reverse_perm _)⟩

end SchemaGo
