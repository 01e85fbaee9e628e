import Mathlib
import SchemaGo.Proofs.Merge.Plain
import SchemaGo.Proofs.Query.ReadBack

/-!
Queries with plain names. The names in their files are names of the language, so the files are
read back, and each of them declares the names that are made from that of its query.
-/

namespace SchemaGo

open Go Naming Lexeme

variable {s : String} {q : Query} {tables : List Table} {c : Config}

/-! ### Names in camel case -/

lemma toLower_length {d : Char} (h : isAscii d = true) : (Unicode.toLower d).length = 1 := by
  rw [Unicode.toLower, if_pos (by simpa [isAscii] using h)]
  rfl

lemma toUpper_length {d : Char} (h : isAscii d = true) : (Unicode.toUpper d).length = 1 := by
  rw [Unicode.toUpper, if_pos (by simpa [isAscii] using h)]
  rfl

lemma lowerWord_length {w : List Char} (hw : ∀ d ∈ w, isAscii d = true) :
    (lowerWord w).length = w.length := by
  fun_induction lowerWord w with
  | case1 => rfl
  | case2 => rfl
  | case3 d ds _ ih =>
    rw [List.length_append, toLower_length (hw d (by simp)), ih fun x hx => hw x (by simp [hx]),
      List.length_cons, Nat.add_comm]

lemma capitalized_length {w : List Char} (hw : ∀ d ∈ w, isAscii d = true) :
    (capitalized w).length = w.length := by
  cases w with
  | nil => rfl
  | cons d ds =>
    rw [capitalized, List.length_append, toUpper_length (hw d (by simp)),
      lowerWord_length fun x hx => hw x (by simp [hx]), List.length_cons, Nat.add_comm]

lemma camelCase_length (h : isAsciiText s = true) :
    (camelCase s).length = (pascalCase s).length := by
  have hall : ∀ w ∈ words s, ∀ d ∈ w, isAscii d = true := fun w hw d hd =>
    List.all_eq_true.mp h d (isAlphanumeric_of_mem_words hw hd).1
  rw [camelCase, pascalCase]
  rcases hws : words s with _ | ⟨w, ws⟩
  · rfl
  · have hw := hall w (by simp [hws])
    simp [lowerWord_length hw, capitalized_length hw]

lemma camelCase_alphanum (h : isAsciiText s = true) :
    ∀ d ∈ (camelCase s).toList, d.isAlphanum = true := by
  have hall : ∀ w ∈ words s, ∀ d ∈ w, d.isAlphanum = true := fun w hw d hd => by
    obtain ⟨hmem, ha⟩ := isAlphanumeric_of_mem_words hw hd
    exact isAlphanum_of_isAlphanumeric (List.all_eq_true.mp h d hmem) ha
  intro d hd
  rw [camelCase] at hd
  split at hd
  · simp at hd
  · next w ws hws =>
    rw [hws] at hall
    rw [String.toList_ofList, List.mem_append, List.mem_flatMap] at hd
    rcases hd with hd | ⟨x, hx, hd⟩
    · exact lowerWord_alphanum (hall w (by simp)) d hd
    · exact capitalized_alphanum (hall x (by simp [hx])) d hd

/-- A name in camel case is an identifier unless it begins with a digit, whatever letters and digits
are put behind it. -/
lemma isWord_camelCase_append {c : Char} (hs : isAsciiText s = true)
    (hc : s.toList.find? Unicode.isAlphanumeric = some c) {e : String}
    (he : e.toList.all Char.isAlphanum = true) :
    isWord (camelCase s ++ e) = true ↔ c.isDigit = false := by
  have hascii := List.all_eq_true.mp hs c (List.mem_of_find?_eq_some hc)
  have ha := isAlphanum_of_isAlphanumeric hascii (List.find?_some hc)
  obtain ⟨ds, -, hds⟩ := exists_cased_eq_cons hc hascii
  have hstart : Unicode.isIdentStart c.toLower = !c.isDigit := by
    have h := forall_ascii
      (p := fun c => !c.isAlphanum || Unicode.isIdentStart c.toLower == !c.isDigit) (by decide)
      hascii
    simpa [ha] using h
  have hrest : (ds ++ e.toList).all Unicode.isIdentPart = true := by
    rw [List.all_eq_true]
    intro d hd
    refine isIdentPart_of_isAlphanum ?_
    rcases List.mem_append.mp hd with hd | hd
    · exact camelCase_alphanum hs d (by simp [hds, hd])
    · exact List.all_eq_true.mp he d hd
  have happend : (camelCase s ++ e).toList = c.toLower :: (ds ++ e.toList) := by
    rw [String.toList_append, hds, List.cons_append]
  rw [isWord, happend]
  simp only [hstart, hrest, Bool.and_true, Bool.not_eq_true']

/-- A name that begins with a letter still does in camel case. -/
lemma isWord_camelCase_append_of_isPlainName (h : isPlainName s = true) {e : String}
    (he : e.toList.all Char.isAlphanum = true) : isWord (camelCase s ++ e) = true := by
  obtain ⟨c, cs, hs, hc, -⟩ := isPlainName_eq_true h
  have ha : c.isAlphanum = true := by simp [Char.isAlphanum, hc]
  have hdigit : c.isDigit = false := by
    have h := forall_ascii (p := fun c => !c.isAlpha || !c.isDigit) (by decide)
      (isAscii_of_isAlphanum ha)
    simpa [hc] using h
  exact (isWord_camelCase_append (isAsciiText_of_isPlainName h) (find?_isAlphanumeric hs ha) he).mpr
    hdigit

/-- What stands behind a name in camel case keeps it from being a keyword. -/
lemma isTypeName_camelCase_append (h : isPlainName s = true) {t : String}
    (ht : t.toList.all Char.isAlphanum = true) (hu : t.toList.any Char.isUpper = true) :
    isTypeName (camelCase s ++ t) = true := by
  obtain ⟨u, hut, hu⟩ := List.any_eq_true.mp hu
  exact isTypeName_of_isWord (isWord_camelCase_append_of_isPlainName h ht)
    (not_mem_keywords (by simp [hut]) hu)

/-- An argument has a name of the language. -/
lemma isTypeName_argumentName (h : isPlainName s = true) : isTypeName (argumentName s) = true := by
  rw [argumentName]
  split
  · decide +kernel
  · split
    · exact isTypeName_camelCase_append h (by decide +kernel) (by decide +kernel)
    · next hno =>
      have hw := isWord_camelCase_append_of_isPlainName h (e := "") rfl
      rw [String.append_empty] at hw
      have hk : camelCase s ∉ keywords := by
        simp only [Bool.or_eq_true, not_or, List.contains_eq_mem, decide_eq_true_eq] at hno
        exact hno.1.2
      exact isTypeName_of_isWord hw hk

/-! ### Plain queries -/

/-- The column has an ASCII name and a plain type; what is aggregated has plain names. -/
def ResultColumn.isPlain (c : ResultColumn) : Bool :=
  match c.isJsonAggregate, c.elementTable with
  | true, some element => isPlainName c.name && isPlainName element
  | _, _ => isAsciiText c.name && isPlainBase (Merge.columnType c.type).base

/-- The query has a plain name, and so have its parameters; the types of both parameters and
columns are plain. -/
structure Query.Plain (q : Query) : Prop where
  name : isPlainName q.name = true
  parameters : ∀ p ∈ q.parameters, isPlainName p.name = true ∧
    isPlainBase (Merge.columnType p.type).base = true
  columns : ∀ c ∈ q.columns, c.isPlain = true

/-! ### Rows -/

lemma legal_columnType {r : TypeRef} (h : isPlainBase (Merge.columnType r).base = true) :
    (Merge.columnType r).base.legal = true := by
  obtain ⟨d, hd⟩ := exists_base_ofName r.name r.isArray r.isNullable
  rw [Merge.columnType, hd] at h ⊢
  exact legal_ofDataType h

lemma isPlainName_raw (h : isPlainName s = true) : isPlainName (s ++ "_raw") = true := by
  obtain ⟨c, cs, hs, hc, hcs⟩ := isPlainName_eq_true h
  have hraw : "_raw".toList.all (fun d => d.isAlphanum || d == '_') = true := by decide +kernel
  rw [isPlainName, String.toList_append, hs]
  simp only [List.cons_append, Bool.and_eq_true, List.all_append]
  exact ⟨hc, List.all_eq_true.mpr fun d hd => by simpa using hcs d hd, hraw⟩

lemma isPlainBase_user {n : String} (h : isPlainName n = true) :
    (ColumnType.user n).base.legal = true :=
  isTypeName_of_isPascalName (isPascalName_pascalCase h)

lemma ResultColumn.isAsciiText_name {r : ResultColumn} (h : r.isPlain = true) :
    isAsciiText r.name = true := by
  unfold isPlain at h
  split at h
  · exact isAsciiText_of_isPlainName (Bool.and_eq_true_iff.mp h).1
  · exact (Bool.and_eq_true_iff.mp h).1

/-- The field of a plain column has a name and a type of the language. -/
lemma ResultColumn.rowField_legal {r : ResultColumn} (h : r.isPlain = true) :
    isWord r.rowField.name = true ∧ r.rowField.type.base.legal = true ∧
      r.rowField.target.legal = true := by
  unfold isPlain at h
  split at h
  · next element ha he =>
    obtain ⟨hn, helement⟩ := Bool.and_eq_true_iff.mp h
    have hw := isWord_fieldName (isAsciiText_of_isPlainName hn)
    simp only [rowField, ha, he]
    exact ⟨hw, isPlainBase_user helement, by
      rw [Target.legal, isTypeName_argumentName (isPlainName_raw hn), hw, Bool.and_self]⟩
  · next hno =>
    obtain ⟨hn, ht⟩ := Bool.and_eq_true_iff.mp h
    have hw := isWord_fieldName hn
    unfold rowField
    split
    · next element ha he => exact absurd he (hno element ha)
    · have hlegal := legal_columnType ht
      simp only [Target.legal]
      exact ⟨hw, hlegal, hw⟩

/-- What is known of the row of a plain query: all of its names are names of the language, and its
type is declared with it exactly if no table has it. -/
structure Row.Fits (q : Query) (b : RowBinding) (r : Row) : Prop where
  type : ∃ ts, IsRowType ts ∧ spell ts = r.type
  targets : ∀ t ∈ r.targets, t.legal = true
  fields : ∀ fs ∈ r.fields?, ∀ x ∈ fs, isWord x.name = true ∧ x.type.base.legal = true
  bound : ∀ t, b = .table t → r.fields? = none
  own : b = .synthesized → r.fields?.isSome = true ∧ r.type = pascalCase q.name ++ "Row"

lemma isPascalName_row (h : isPlainName s = true) :
    isPascalName (pascalCase s ++ "Row") = true := by
  obtain ⟨c, cs, hs, hc, hcs⟩ := isPascalName_eq_true (isPascalName_pascalCase h)
  have hrow : "Row".toList.all Char.isAlphanum = true := by decide +kernel
  rw [isPascalName, String.toList_append, hs]
  simp only [List.cons_append, Bool.and_eq_true, List.all_append]
  exact ⟨hc, List.all_eq_true.mpr hcs, hrow⟩

lemma Query.Plain.row (hq : q.Plain) {models : String} (hm : isTypeName models = true)
    {b : RowBinding} (hb : ∀ t, b = .table t → isPlainName t.name = true) {r : Row}
    (h : q.row models b = .ok r) : Row.Fits q b r := by
  cases b with
  | table t =>
    obtain rfl := Except.ok.inj h
    have ht := isTypeName_of_isPascalName (isPascalName_pascalCase (hb t rfl))
    refine ⟨⟨_, .qualified hm (Bool.and_eq_true_iff.mp ht).1, ?_⟩, ?_, by simp, by simp, by simp⟩
    · simp [spell_cons, Lexeme.text, Table.typeName, ← String.append_assoc]
    · intro x hx
      obtain ⟨col, hcol, rfl⟩ := List.mem_map.mp hx
      have hw := isWord_fieldName (ResultColumn.isAsciiText_name (hq.columns col hcol))
      simpa only [Target.legal] using hw
  | synthesized =>
    rw [Query.row, rowFields] at h
    split at h
    · simp [Except.map] at h
    · obtain rfl := Except.ok.inj h
      have hlegal : ∀ x ∈ q.columns.map (·.rowField), isWord x.name = true ∧
          x.type.base.legal = true ∧ x.target.legal = true := by
        intro x hx
        obtain ⟨col, hcol, rfl⟩ := List.mem_map.mp hx
        exact ResultColumn.rowField_legal (hq.columns col hcol)
      refine ⟨⟨_, .name (isTypeName_of_isPascalName (isPascalName_row hq.name)), ?_⟩, ?_, ?_,
        by simp, fun _ => ⟨rfl, rfl⟩⟩
      · simp [spell_cons, Lexeme.text]
      · intro t ht
        obtain ⟨x, hx, rfl⟩ := List.mem_map.mp ht
        exact (hlegal x hx).2.2
      · rintro fs ⟨rfl⟩ x hx
        exact ⟨(hlegal x hx).1, (hlegal x hx).2.1⟩

/-- The names that are made from that of the query. -/
def Query.names (q : Query) (tables : List Table) : List String :=
  ((q.plan tables).row?.elim [] fun
    | .table _ => []
    | .synthesized => [pascalCase q.name ++ "Row"]) ++
    [camelCase q.name ++ "SQL", pascalCase q.name]

lemma Query.names_nodup (hq : isPlainName q.name = true) (tables : List Table) :
    (q.names tables).Nodup := by
  have hlen := camelCase_length (isAsciiText_of_isPlainName hq)
  have hsql : camelCase q.name ++ "SQL" ≠ pascalCase q.name := by
    intro he
    have h := congrArg String.length he
    simp [hlen] at h
  have hrow : pascalCase q.name ++ "Row" ≠ pascalCase q.name := by
    intro he
    have h := congrArg String.length he
    simp at h
  have hboth : pascalCase q.name ++ "Row" ≠ camelCase q.name ++ "SQL" := by
    intro he
    have h := congrArg (fun s : String => s.toList.getLast?) he
    simp at h
  unfold names
  rcases (q.plan tables).row? with _ | (_ | _) <;> simp [hsql, hrow, hboth]

lemma Query.returns_eq_ok {models : String} {plan : Returns RowBinding} {returns : Returns Row}
    (h : q.returns models plan = .ok returns) :
    (plan.row? = none ∧ returns.row? = none) ∨
      ∃ b r, plan.row? = some b ∧ returns.row? = some r ∧ q.row models b = .ok r := by
  have hone : ∀ {b} {f : Row → Returns Row}, f <$> q.row models b = .ok returns →
      ∃ r, q.row models b = .ok r ∧ returns = f r := by
    intro b f h
    rcases hr : q.row models b with e | r
    · simp [hr] at h
    · exact ⟨r, rfl, by simpa [hr, eq_comm] using h⟩
  cases plan with
  | one b | many b =>
    obtain ⟨r, hr, rfl⟩ := hone h
    exact .inr ⟨b, r, rfl, rfl, hr⟩
  | errorOnly | affectedRows =>
    obtain rfl := Except.ok.inj h
    exact .inl ⟨rfl, rfl⟩

lemma Query.reusable?_of_plan {t : Table} (h : (q.plan tables).row? = some (.table t)) :
    q.reusable? tables = some t := by
  have hb : q.binding tables = .table t := by
    unfold plan at h
    split at h
    · exact Option.some.inj h
    · exact Option.some.inj h
    · simp [Returns.row?] at h
    · simp [Returns.row?] at h
  unfold binding at hb
  rcases hr : q.reusable? tables with _ | u
  · simp [hr] at hb
  · simpa [hr] using hb

/-- A table that has the columns of a query is one of the schema. -/
lemma Query.mem_of_plan {t : Table} (h : (q.plan tables).row? = some (.table t)) : t ∈ tables := by
  have hr := reusable?_of_plan h
  unfold reusable? at hr
  split at hr
  · simp at hr
  · exact List.mem_of_find?_eq_some hr

lemma Query.file_eq_ok {f : QueryFile} (h : q.file tables c = .ok f) :
    ∃ returns, q.returns c.modelsPackage (q.plan tables) = .ok returns ∧
      f.package = c.queriesPackage ∧ f.models = c.modelsPackage ∧
      (∀ p ∈ f.imports, p ∈ QueryFile.knownImports) ∧ (∀ p ∈ f.modelsImport?, p = c.modelsImport) ∧
      f.function = pascalCase q.name ∧ f.constant = camelCase q.name ++ "SQL" ∧
      f.arguments = q.orderedParameters.map (·.argument) ∧ f.returns = returns := by
  unfold file at h
  rcases hr : q.returns c.modelsPackage (q.plan tables) with e | returns
  · simp [hr, bind, Except.bind] at h
  · simp only [hr, bind, Except.bind, pure, Except.pure, Except.ok.injEq] at h
    subst h
    refine ⟨returns, rfl, rfl, rfl, fun p hp => (List.mem_filter.mp hp).1, fun p hp => ?_, rfl, rfl,
      rfl, rfl⟩
    split at hp <;> simp_all

/-- **The file of a plain query has names of the language**, and declares the names that are made
from that of the query. -/
theorem Query.Plain.file (hq : q.Plain) (hpackage : isPlainName c.queriesPackage = true)
    (hmodels : isTypeName c.modelsPackage = true)
    (hpath : QueryFile.isPlainPath c.modelsImport = true)
    (htables : ∀ t ∈ tables, isPlainName t.name = true) {f : QueryFile}
    (h : q.file tables c = .ok f) : f.Legal ∧ f.names = q.names tables := by
  obtain ⟨returns, hr, hp, hm, himports, himport, hfunction, hconstant, hargs, hreturns⟩ :=
    file_eq_ok h
  have hrow : ∀ r ∈ f.returns.row?, ∃ b, (q.plan tables).row? = some b ∧ Row.Fits q b r := by
    intro r hr'
    rw [hreturns] at hr'
    rcases returns_eq_ok hr with ⟨-, hnone⟩ | ⟨b, r', hb, hsome, hrow⟩
    · rw [hnone] at hr'
      exact absurd hr' (by simp)
    · obtain rfl : r' = r := by simpa [hsome] using hr'
      refine ⟨b, hb, hq.row hmodels (fun t ht => htables t ?_) hrow⟩
      exact mem_of_plan (by rw [hb, ht])
  have hword := (Bool.and_eq_true_iff.mp
    (isTypeName_of_isPascalName (isPascalName_pascalCase hq.name))).1
  refine ⟨{ package := ?_, models := ?_, imports := ?_, modelsImport := ?_, constant := ?_,
            function := ?_, arguments := ?_, row := ?_, targets := ?_, rowType := ?_ }, ?_⟩
  · exact hp ▸ isWord_of_isPlainName hpackage
  · exact hm ▸ hmodels
  · have hknown : ∀ p ∈ QueryFile.knownImports, QueryFile.isPlainPath p = true := by decide +kernel
    exact fun p hp => hknown p (himports p hp)
  · exact fun p hp => himport p hp ▸ hpath
  · exact hconstant ▸ isTypeName_camelCase_append hq.name (by decide +kernel) (by decide +kernel)
  · exact hfunction ▸ hword
  · intro a ha
    rw [hargs] at ha
    obtain ⟨p, hp, rfl⟩ := List.mem_map.mp ha
    obtain ⟨hn, ht⟩ := hq.parameters p (List.mem_mergeSort.mp hp)
    have hname := isTypeName_argumentName hn
    have htype := legal_columnType ht
    simp only [Parameter.argument]
    exact ⟨hname, htype⟩
  · exact fun r hr => (hrow r hr).choose_spec.2.type
  · exact fun r hr => (hrow r hr).choose_spec.2.targets
  · intro p hp
    obtain ⟨r, hr, fs, hfs, rfl⟩ : ∃ r ∈ f.returns.row?, ∃ fs ∈ r.fields?, (r.type, fs) = p := by
      simpa [QueryFile.rowType?, Option.bind_eq_some_iff] using hp
    obtain ⟨b, -, hfits⟩ := hrow r hr
    refine ⟨?_, hfits.fields fs hfs⟩
    cases b with
    | table t =>
      rw [hfits.bound t rfl] at hfs
      exact absurd hfs (by simp)
    | synthesized =>
      rw [(hfits.own rfl).2]
      exact (Bool.and_eq_true_iff.mp (isTypeName_of_isPascalName (isPascalName_row hq.name))).1
  · rw [QueryFile.names, Query.names, hconstant, hfunction]
    congr 1
    unfold QueryFile.rowType?
    rcases returns_eq_ok hr with ⟨hnone, hnone'⟩ | ⟨b, r, hb, hsome, -⟩
    · rw [hreturns, hnone, hnone']
      rfl
    · obtain ⟨b', hb', hfits⟩ := hrow r (by rw [hreturns, hsome]; rfl)
      obtain rfl : b = b' := Option.some.inj (hb.symm.trans hb')
      rw [hreturns, hsome, hb]
      cases b with
      | table t => simp [hfits.bound t rfl]
      | synthesized =>
        obtain ⟨hsome, htype⟩ := hfits.own rfl
        obtain ⟨fs, hfs⟩ := Option.isSome_iff_exists.mp hsome
        simp [hfs, htype]

end SchemaGo
