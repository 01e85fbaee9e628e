import Mathlib
import SchemaGo.Proofs.Query.Binding
import SchemaGo.Proofs.Query.Scope

/-!
What the file of a query imports. A package is there if and only if the file names something of it:
the type of a parameter, of the rows or of one of their fields, or what decodes JSON in the body.
-/

namespace SchemaGo

open Go Lexeme Naming

variable {q : Query} {tables : List Table} {c : Config} {f : QueryFile} {p w : String}

/-! ### Names of packages -/

namespace Go

variable {ts us : List Lexeme} {x : Lexeme} {xs : List (List Lexeme)} {n : ℕ}

/-- The lexemes name the member `w` of the package `p`. -/
def Selects (p w : String) (ts : List Lexeme) : Prop := [.word p, .mark '.', .word w] <:+: ts

def Qualifies (p : String) (ts : List Lexeme) : Prop := ∃ w, Selects p w ts

/-- A list without `x` is not found across `x`. -/
lemma infix_append_cons_iff {α : Type} {x : α} {l l₁ l₂ : List α} (hx : x ∉ l) :
    l <:+: l₁ ++ x :: l₂ ↔ l <:+: l₁ ∨ l <:+: l₂ := by
  constructor
  · rintro ⟨s, t, h⟩
    rw [List.append_assoc] at h
    rcases List.append_eq_append_iff.mp h with ⟨k, rfl, hk⟩ | ⟨k, rfl, hk⟩
    · -- it begins in front of `x`
      rcases List.append_eq_append_iff.mp hk with ⟨m, rfl, -⟩ | ⟨m, rfl, hm⟩
      · exact .inl ⟨s, m, by simp⟩
      · rcases m with _ | ⟨y, m⟩
        · exact .inl ⟨s, [], by simp⟩
        · obtain ⟨rfl, -⟩ := List.cons.inj hm
          simp at hx
    · rcases k with _ | ⟨y, k⟩
      · rcases l with _ | ⟨y, l⟩
        · exact .inl List.nil_infix
        · obtain ⟨rfl, -⟩ := List.cons.inj hk
          simp at hx
      · obtain ⟨-, rfl⟩ := List.cons.inj hk
        exact .inr ⟨k, t, by simp⟩
  · rintro (h | h)
    · exact h.trans (List.prefix_append _ _).isInfix
    · exact h.trans ((List.suffix_cons _ _).trans (List.suffix_append _ _)).isInfix

lemma not_selects_of_length (h : ts.length < 3) : ¬ Selects p w ts := fun hs => by
  have hl := hs.length_le
  simp at hl
  omega

@[simp] lemma selects_nil : ¬ Selects p w [] := not_selects_of_length (by simp)

@[simp] lemma selects_word (v : String) : ¬ Selects p w [.word v] :=
  not_selects_of_length (by simp)

@[simp] lemma selects_append_cons (hword : ∀ v, x ≠ .word v) (hpoint : x ≠ .mark '.') :
    Selects p w (ts ++ x :: us) ↔ Selects p w ts ∨ Selects p w us :=
  infix_append_cons_iff (by simp [hword, hpoint])

@[simp] lemma selects_cons (hword : ∀ v, x ≠ .word v) (hpoint : x ≠ .mark '.') :
    Selects p w (x :: us) ↔ Selects p w us := by
  have h : Selects p w ([] ++ x :: us) ↔ _ := selects_append_cons hword hpoint
  simpa using h

@[simp] lemma selects_word_cons (v : String) (hword : ∀ v, x ≠ .word v) (hpoint : x ≠ .mark '.') :
    Selects p w (.word v :: x :: us) ↔ Selects p w us := by
  have h : Selects p w ([.word v] ++ x :: us) ↔ _ := selects_append_cons hword hpoint
  simpa using h

@[simp] lemma selects_member (v u : String) :
    Selects p w (.word v :: .mark '.' :: .word u :: us) ↔
      v = p ∧ u = w ∨ Selects p w (.word u :: us) := by
  unfold Selects
  rw [List.infix_cons_iff, List.infix_cons_iff]
  simp [List.cons_prefix_cons, eq_comm]

/-! #### Lists and lines -/

@[simp] lemma selects_indent_append : Selects p w (indent n ++ ts) ↔ Selects p w ts := by
  unfold indent
  split <;> simp

@[simp] lemma selects_indent : ¬ Selects p w (indent n) := by
  unfold indent
  split <;> simp

lemma selects_commas : Selects p w (commas xs) ↔ ∃ x ∈ xs, Selects p w x := by
  fun_induction commas xs with
  | case1 => simp
  | case2 x => simp
  | case3 x y xs ih => simp [ih]

lemma selects_lines_append : Selects p w (lineLexemes n xs ++ ts) ↔
    (∃ x ∈ xs, Selects p w x) ∨ Selects p w ts := by
  induction xs with
  | nil => simp [lineLexemes]
  | cons x xs ih =>
    rw [lineLexemes, List.flatMap_cons, ← lineLexemes]
    simp [ih, or_assoc]

lemma selects_lines : Selects p w (lineLexemes n xs) ↔ ∃ x ∈ xs, Selects p w x := by
  have h : Selects p w (lineLexemes n xs ++ []) ↔ _ := selects_lines_append
  simpa using h

/-! #### Statements -/

variable {v m : String}

lemma selects_call (head : List Lexeme) :
    Selects p w (callLexemes head xs) ↔ Selects p w head ∨ ∃ x ∈ xs, Selects p w x := by
  simp [callLexemes, selects_commas]

lemma selects_define (head : List Lexeme) :
    Selects p w (defineLexemes head v m xs) ↔
      Selects p w head ∨ (v = p ∧ m = w) ∨ ∃ x ∈ xs, Selects p w x := by
  simp [defineLexemes, selects_call, defines, methodLexemes, or_assoc]

lemma selects_return :
    Selects p w (returnLexemes v m xs) ↔ (v = p ∧ m = w) ∨ ∃ x ∈ xs, Selects p w x := by
  simp [returnLexemes, selects_call, methodLexemes]

lemma selects_failedCall :
    Selects p w (failedCall v m xs) ↔ (v = p ∧ m = w) ∨ ∃ x ∈ xs, Selects p w x := by
  simp [failedCall, failed, selects_define]

lemma selects_withBlock :
    Selects p w (withBlock n ts xs) ↔ Selects p w ts ∨ ∃ x ∈ xs, Selects p w x := by
  simp [withBlock, blockLexemes, selects_lines_append]

lemma selects_var : Selects p w (varLexemes v ts) ↔ Selects p w ts := by
  simp [varLexemes]

/-! #### Types -/

lemma selects_qualifiedLexemes {models : String} (t : ColumnType) :
    Selects p w (t.qualifiedLexemes models) ↔
      match t.base with
      | .user name => models = p ∧ name = w
      | .json => "json" = p ∧ "RawMessage" = w
      | .time => "time" = p ∧ "Time" = w
      | .scalar _ | .bytes => False := by
  obtain ⟨base, slice, pointer⟩ := t
  cases base <;> cases slice <;> cases pointer <;>
    simp [ColumnType.qualifiedLexemes, ColumnType.marked, ColumnType.isUser, BaseType.lexemes]

lemma qualifies_qualifiedLexemes {models : String} (t : ColumnType) :
    Qualifies p (t.qualifiedLexemes models) ↔
      (t.isUser = true ∧ models = p) ∨ (t.base = .json ∧ "json" = p) ∨
        (t.base = .time ∧ "time" = p) := by
  unfold Qualifies
  simp only [selects_qualifiedLexemes, ColumnType.isUser]
  cases t.base <;> simp

/-- The packages that qualify a type are told apart, unless the models have the name of another. -/
lemma qualifies_type {models : String} (hm : models ∉ ["context", "time", "json"])
    (t : ColumnType) :
    (Qualifies "time" (t.qualifiedLexemes models) ↔ t.importPath? = some timeImport) ∧
    (Qualifies "json" (t.qualifiedLexemes models) ↔ t.importPath? = some jsonImport) ∧
    (Qualifies models (t.qualifiedLexemes models) ↔ t.isUser = true) := by
  simp only [List.mem_cons, List.not_mem_nil, or_false, not_or] at hm
  obtain ⟨-, htime, hjson⟩ := hm
  simp only [qualifies_qualifiedLexemes, ColumnType.importPath?, ColumnType.isUser]
  cases t.base <;>
    simp [BaseType.importPath?, timeImport, jsonImport, htime, hjson, Ne.symm htime, Ne.symm hjson]

end Go

/-! ### The body -/

namespace QueryFile

lemma selects_words (xs : List String) : ¬ ∃ x ∈ words xs, Selects p w x := by
  simp [words]

lemma selects_scan (r : Row) :
    (∃ x ∈ scanLexemes r, Selects p w x) ↔
      ∃ field, .field field ∈ r.targets ∧ "i" = p ∧ field = w := by
  simp only [scanLexemes, List.mem_map]
  constructor
  · rintro ⟨_, ⟨field | ⟨b, field⟩, ht, rfl⟩, hs⟩
    · exact ⟨field, ht, by simpa [Target.lexemes] using hs⟩
    · simp [Target.lexemes] at hs
  · rintro ⟨field, ht, rfl, rfl⟩
    exact ⟨_, ⟨_, ht, rfl⟩, by simp [Target.lexemes]⟩

lemma selects_guard (n : ℕ) (condition inner : List Lexeme) :
    Selects p w (guardLexemes n condition inner) ↔ Selects p w condition ∨ Selects p w inner := by
  simp [guardLexemes, selects_withBlock]

/-- JSON is decoded for a target of the row. -/
def Decodes (r : Row) : Prop := ∃ b field, .decoded b field ∈ r.targets

lemma selects_declare (r : Row) : ¬ ∃ x ∈ declareLexemes r, Selects p w x := by
  rintro ⟨x, hx, hs⟩
  obtain ⟨field | ⟨b, field⟩, ht, hx⟩ := List.mem_filterMap.mp hx
  · simp at hx
  · obtain rfl := Option.some.inj hx
    simp [selects_var, bytesLexemes, BaseType.lexemes] at hs

lemma selects_decode (n : ℕ) (r : Row) {failure : List Lexeme} :
    (∃ x ∈ decodeLexemes n failure r, Selects "json" "Unmarshal" x) ↔ Decodes r := by
  constructor
  · rintro ⟨x, hx, -⟩
    obtain ⟨field | ⟨b, field⟩, ht, hx⟩ := List.mem_filterMap.mp hx
    · simp at hx
    · exact ⟨b, field, ht⟩
  · rintro ⟨b, field, ht⟩
    exact ⟨_, List.mem_filterMap.mpr ⟨_, ht, rfl⟩, by
      simp [decodeOne, selects_guard, selects_failedCall]⟩

lemma selects_readRow (n : ℕ) {ts failure : List Lexeme} {cursor : String} (r : Row)
    (hcursor : cursor ≠ "json") (hts : ¬ Selects "json" "Unmarshal" ts)
    (hfailure : ¬ Selects "json" "Unmarshal" failure) :
    (∃ x ∈ readRow n ts failure cursor r, Selects "json" "Unmarshal" x) ↔ Decodes r := by
  have hdeclare := selects_declare (p := "json") (w := "Unmarshal") r
  simp only [readRow, List.mem_append, List.mem_cons, or_and_right, exists_or, exists_eq_left,
    selects_var, hts, hdeclare, selects_guard, selects_failedCall, hcursor, selects_scan,
    hfailure, selects_decode, false_and, false_or, or_false]
  simp

lemma selects_fixed : ∀ x ∈ fixedLines, ¬ Selects "json" "Unmarshal" x := by
  simp [fixedLines, returnPair, returnErr, closeRows, appendItem]

/-- The body decodes JSON if and only if there is a target for it. -/
lemma selects_unmarshal_body (f : QueryFile) {ts : List Lexeme}
    (hts : ¬ Selects "json" "Unmarshal" ts) :
    Selects "json" "Unmarshal" (lineLexemes 1 (f.bodyLexemes ts)) ↔
      ∃ r ∈ f.returns.row?, Decodes r := by
  have hfixed := selects_fixed
  simp only [fixedLines, List.forall_mem_cons] at hfixed
  obtain ⟨hrow, hdone, hnil, hitems, herr, hclose, happend, -⟩ := hfixed
  have hcall : ¬ ∃ x ∈ f.callLexemes, Selects "json" "Unmarshal" x := selects_words _
  rw [selects_lines]
  unfold bodyLexemes
  cases hr : f.returns with
  | one r =>
    have hread := selects_readRow 1 r (by decide : "row" ≠ "json") hts hrow
    simp only [List.mem_cons, List.mem_append, or_and_right, exists_or, exists_eq_left,
      selects_define, hcall, hread, hdone, selects_word]
    simp [Returns.row?]
  | many r =>
    have hread := selects_readRow 2 r (by decide : "rows" ≠ "json") hts hnil
    have hslice : ¬ Selects "json" "Unmarshal" (.mark '[' :: .mark ']' :: ts) := by simpa using hts
    simp only [List.mem_cons, List.mem_append, or_and_right, exists_or, exists_eq_left,
      selects_define, selects_guard, selects_withBlock, selects_failedCall, selects_var, hcall,
      hread, hnil, hitems, hclose, hslice]
    simp [Returns.row?, failed, forRows, happend]
  | errorOnly =>
    simp only [List.exists_mem_cons_iff, selects_define, hcall, herr]
    simp [Returns.row?]
  | affectedRows =>
    simp only [List.exists_mem_cons_iff, selects_return, hcall]
    simp [Returns.row?]

/-! ### The other parts -/

/-- The types of the fields of the rows, where the file declares the type of the rows. -/
def fieldLexemes (f : QueryFile) : List (List Lexeme) :=
  (rowFields f.returns).map (·.type.qualifiedLexemes f.models)

lemma qualifies_signature (f : QueryFile) :
    Qualifies p (commas f.parameterLexemes) ↔
      "context" = p ∨ ∃ a ∈ f.arguments, Qualifies p (a.type.qualifiedLexemes f.models) := by
  simp only [Qualifies, selects_commas, parameterLexemes, List.mem_cons, List.mem_map, or_and_right,
    exists_or, exists_eq_left, exists_exists_and_eq_and]
  simp [exists_comm (α := String)]

lemma qualifies_result {ts : List Lexeme} (returns : Returns Row) :
    Qualifies p (resultLexemes ts returns) ↔ returns.row?.isSome = true ∧ Qualifies p ts := by
  cases returns <;> simp [Qualifies, resultLexemes, commas, Returns.row?]

/-- What names other packages in a file, as lexemes. -/
structure Tokens where
  signature : List Lexeme
  result : List Lexeme
  /-- The types of the fields of the rows, where the file declares the type of the rows. -/
  fields : List (List Lexeme)
  body : List Lexeme

namespace Tokens

/-- The lexemes spell their parts of the file. -/
structure Spells (ts : Tokens) (f : QueryFile) : Prop where
  signature : spell ts.signature = f.signature
  result : spell ts.result = f.resultType
  rowType : (ts.fields = [] ∧ f.renderRowType = "") ∨
    ∃ type names, names.length = ts.fields.length ∧ f.renderRowType =
      "\n" ++ renderStruct type (List.zipWith .named names (ts.fields.map spell)) ++ "\n"
  body : spell ts.body = f.renderBody

/-- The package `p` has the type of a parameter, or of a field that the file declares. -/
def HasTypeOf (ts : Tokens) (p : String) : Prop :=
  Qualifies p ts.signature ∨ ∃ type ∈ ts.fields, Qualifies p type

end Tokens

lemma rowType_fieldLexemes (f : QueryFile) :
    (f.fieldLexemes = [] ∧ f.renderRowType = "") ∨
      ∃ type names, names.length = f.fieldLexemes.length ∧ f.renderRowType =
        "\n" ++ renderStruct type (List.zipWith .named names (f.fieldLexemes.map spell)) ++
          "\n" := by
  unfold renderRowType fieldLexemes rowFields
  rcases f.returns.row? with _ | ⟨type, _ | fields, targets⟩
  · exact .inl ⟨rfl, rfl⟩
  · exact .inl ⟨rfl, rfl⟩
  · refine .inr ⟨type, fields.map (·.name), by simp, ?_⟩
    simp [List.zipWith_map_left, List.zipWith_map_right, List.zipWith_self,
      ColumnType.spell_qualifiedLexemes, Function.comp_def]

end QueryFile

/-! ### What is imported -/

namespace Query

/-- The lexemes of the file for a query. -/
def tokens (q : Query) (tables : List Table) (c : Config) (f : QueryFile) : QueryFile.Tokens where
  signature := commas f.parameterLexemes
  result := QueryFile.resultLexemes
    ((q.plan tables).row?.elim [] (q.rowTypeLexemes c.modelsPackage)) f.returns
  fields := f.fieldLexemes
  body := q.bodyTokens tables c f

lemma spells_tokens (hf : q.file tables c = .ok f) : (q.tokens tables c f).Spells f where
  signature := f.spell_parameterLexemes
  result := by
    refine QueryFile.spell_resultLexemes fun r hr => ?_
    obtain ⟨b, hb, hrow⟩ := exists_row_of_file hf hr
    rw [hb]
    exact spell_rowTypeLexemes hrow
  rowType := f.rowType_fieldLexemes
  body := spell_bodyTokens hf

open QueryFile in
lemma imports_of_file (hf : q.file tables c = .ok f) :
    f.imports = knownImports.filter (neededImports f.arguments f.returns).contains ∧
      f.modelsImport? = if namesModels (q.plan tables) f.arguments f.returns then
        some c.modelsImport else none := by
  unfold file at hf
  rcases hr : q.returns c.modelsPackage (q.plan tables) with e | returns
  · simp [hr, bind, Except.bind] at hf
  · simp only [hr, bind, Except.bind, pure, Except.pure, Except.ok.injEq] at hf
    subst hf
    exact ⟨rfl, rfl⟩

lemma isBound_iff {plan : Returns RowBinding} :
    QueryFile.isBound plan = true ↔ ∃ t, plan.row? = some (.table t) := by
  rcases plan with (_ | _) | (_ | _) | _ | _ <;> simp [QueryFile.isBound, Returns.row?]

/-- The file declares the fields of the columns if their rows have a type of their own, and decodes
JSON for those of them that it declares. -/
lemma rowFields_of_file (hf : q.file tables c = .ok f) :
    (QueryFile.rowFields f.returns =
      if (q.plan tables).row? = some .synthesized then q.columns.map (·.rowField) else []) ∧
    ((∃ r ∈ f.returns.row?, QueryFile.Decodes r) ↔
      ∃ x ∈ QueryFile.rowFields f.returns, x.target.bytes?.isSome = true) := by
  have hdecoded : ∀ t : Target, t.bytes?.isSome = true ↔ ∃ b field, t = .decoded b field := by
    rintro (_ | _) <;> simp [Target.bytes?]
  rcases hb : (q.plan tables).row? with _ | b
  · obtain ⟨row, hreturns, -⟩ := returns_of_file hf
    have hnone : f.returns.row? = none := by rw [hreturns, Returns.row?_map, hb]; rfl
    simp [QueryFile.rowFields, hnone]
  · obtain ⟨r, hr, hrow⟩ := row_of_file hf hb
    cases b with
    | table t =>
      obtain rfl := Except.ok.inj hrow
      simp [QueryFile.rowFields, hr, QueryFile.Decodes]
    | synthesized =>
      obtain ⟨-, rfl⟩ := row_synthesized_eq_ok_iff.mp hrow
      have hfields : QueryFile.rowFields f.returns = q.columns.map (·.rowField) := by
        simp [QueryFile.rowFields, hr]
      rw [hfields, hr]
      refine ⟨by simp, ?_⟩
      constructor
      · rintro ⟨_, ⟨rfl⟩, b, field, ht⟩
        obtain ⟨x, hx, hxt⟩ := List.mem_map.mp ht
        exact ⟨x, hx, (hdecoded _).mpr ⟨b, field, hxt⟩⟩
      · rintro ⟨x, hx, hsome⟩
        obtain ⟨b, field, hxt⟩ := (hdecoded _).mp hsome
        exact ⟨_, rfl, b, field, List.mem_map.mpr ⟨x, hx, hxt⟩⟩

lemma mem_imports {path : String} (hf : q.file tables c = .ok f) :
    path ∈ f.imports ↔ path ∈ QueryFile.knownImports ∧ (path = QueryFile.contextImport ∨
      (∃ a ∈ f.arguments, a.type.importPath? = some path) ∨
      ∃ x ∈ QueryFile.rowFields f.returns,
        x.type.importPath? = some path ∨ x.target.bytes?.isSome = true ∧ path = jsonImport) := by
  have htarget : ∀ x : RowField, path ∈ x.imports ↔ x.type.importPath? = some path ∨
      x.target.bytes?.isSome = true ∧ path = jsonImport := by
    rintro ⟨name, type, _ | _⟩ <;> simp [RowField.imports, Target.bytes?]
  rw [(imports_of_file hf).1, List.mem_filter, List.contains_iff_mem, QueryFile.neededImports]
  simp [htarget]

lemma hasTypeOf_tokens (hf : q.file tables c = .ok f) :
    (q.tokens tables c f).HasTypeOf p ↔ "context" = p ∨
      (∃ a ∈ f.arguments, Qualifies p (a.type.qualifiedLexemes c.modelsPackage)) ∨
      ∃ x ∈ QueryFile.rowFields f.returns,
        Qualifies p (x.type.qualifiedLexemes c.modelsPackage) := by
  simp [QueryFile.Tokens.HasTypeOf, tokens, QueryFile.qualifies_signature, QueryFile.fieldLexemes,
    models_of_file hf, or_assoc]

/-- The result is of a type of the models package if and only if that of the rows is one of a
table. -/
lemma qualifies_result_tokens (hf : q.file tables c = .ok f) :
    Qualifies c.modelsPackage (q.tokens tables c f).result ↔
      QueryFile.isBound (q.plan tables) = true := by
  obtain ⟨row, hreturns, -⟩ := returns_of_file hf
  rw [tokens, QueryFile.qualifies_result, hreturns, Returns.row?_map, isBound_iff]
  rcases (q.plan tables).row? with _ | _ | _ <;> simp [Qualifies, rowTypeLexemes]

lemma selects_unmarshal_tokens (hf : q.file tables c = .ok f)
    (hm : c.modelsPackage ∉ ["context", "time", "json"]) :
    Selects "json" "Unmarshal" (q.tokens tables c f).body ↔
      ∃ x ∈ QueryFile.rowFields f.returns, x.target.bytes?.isSome = true := by
  rw [← (rowFields_of_file hf).2]
  refine f.selects_unmarshal_body ?_
  have hjson : c.modelsPackage ≠ "json" := fun h => hm (by simp [h])
  rcases (q.plan tables).row? with _ | _ | _ <;> simp [rowTypeLexemes, hjson]

/-! #### Columns that do not matter -/

lemma exists_file_of_not_synthesized (h : (q.plan tables).row? ≠ some .synthesized) :
    ∃ f, q.file tables c = .ok f := by
  rcases hb : (q.plan tables).row? with _ | _ | _
  · cases hplan : q.plan tables with
    | one b | many b => simp [hplan, Returns.row?] at hb
    | errorOnly | affectedRows => exact ⟨_, by rw [file, hplan]; rfl⟩
  · exact (exists_file_iff hb).mpr ⟨_, rfl⟩
  · exact absurd hb h

/-- Where the rows have no type of their own, columns change nothing about the imports. -/
lemma imports_congr_columns {columns : List ResultColumn} {f' : QueryFile}
    (hq : (q.plan tables).row? ≠ some .synthesized)
    (hq' : (({ q with columns } : Query).plan tables).row? ≠ some .synthesized)
    (hf : q.file tables c = .ok f)
    (hf' : ({ q with columns } : Query).file tables c = .ok f') :
    f'.imports = f.imports ∧ f'.modelsImport? = f.modelsImport? := by
  have harguments : f'.arguments = f.arguments :=
    (argument_of_file hf').trans (argument_of_file hf).symm
  have hfields : QueryFile.rowFields f.returns = [] := by simpa [hq] using (rowFields_of_file hf).1
  have hfields' : QueryFile.rowFields f'.returns = [] := by
    simpa [hq'] using (rowFields_of_file hf').1
  have hbound : QueryFile.isBound (({ q with columns } : Query).plan tables) =
      QueryFile.isBound (q.plan tables) := by
    rw [Bool.eq_iff_iff, isBound_iff, isBound_iff]
    by_cases hrows : q.HasRows
    · rw [row?_plan q tables hrows] at hq ⊢
      rw [row?_plan { q with columns } tables hrows] at hq' ⊢
      generalize q.binding tables = b at hq ⊢
      generalize ({ q with columns } : Query).binding tables = b' at hq' ⊢
      cases b <;> cases b' <;> simp_all
    · rw [row?_plan_of_not_hasRows hrows, row?_plan_of_not_hasRows (q := { q with columns }) hrows]
  have hneeded : QueryFile.neededImports f'.arguments f'.returns =
      QueryFile.neededImports f.arguments f.returns := by
    rw [QueryFile.neededImports, QueryFile.neededImports, harguments, hfields, hfields']
  have hnames : QueryFile.namesModels (({ q with columns } : Query).plan tables) f'.arguments
      f'.returns = QueryFile.namesModels (q.plan tables) f.arguments f.returns := by
    rw [QueryFile.namesModels, QueryFile.namesModels, hbound, harguments, hfields, hfields']
  exact ⟨by rw [(imports_of_file hf').1, (imports_of_file hf).1, hneeded],
    by rw [(imports_of_file hf').2, (imports_of_file hf).2, hnames]⟩

/-- **The imports of the file of a query are those that it needs.** The package of contexts is
always there, and any other if and only if the types of the parameters or of the fields that are
declared are of it, JSON also where the body decodes it, and the models where the result is of them.
Columns that no type is declared for do not matter. -/
theorem file_imports (hf : q.file tables c = .ok f)
    (hm : c.modelsPackage ∉ ["context", "time", "json"]) :
    (q.tokens tables c f).Spells f ∧ f.imports.Nodup ∧
    (∀ path ∈ f.imports, path ∈ [QueryFile.contextImport, timeImport, jsonImport]) ∧
    QueryFile.contextImport ∈ f.imports ∧
    (timeImport ∈ f.imports ↔ (q.tokens tables c f).HasTypeOf "time") ∧
    (jsonImport ∈ f.imports ↔ (q.tokens tables c f).HasTypeOf "json" ∨
      Selects "json" "Unmarshal" (q.tokens tables c f).body) ∧
    (f.modelsImport? = some c.modelsImport ↔ (q.tokens tables c f).HasTypeOf c.modelsPackage ∨
      Qualifies c.modelsPackage (q.tokens tables c f).result) ∧
    (f.modelsImport? = none ↔ ¬ ((q.tokens tables c f).HasTypeOf c.modelsPackage ∨
      Qualifies c.modelsPackage (q.tokens tables c f).result)) ∧
    ∀ columns, (q.plan tables).row? ≠ some .synthesized →
      (({ q with columns } : Query).plan tables).row? ≠ some .synthesized →
      ∃ f', ({ q with columns } : Query).file tables c = .ok f' ∧ f'.imports = f.imports ∧
        f'.modelsImport? = f.modelsImport? := by
  have htype := qualifies_type hm
  have hcontext : "context" ≠ c.modelsPackage := fun h => hm (by simp [← h])
  have hmodels : QueryFile.namesModels (q.plan tables) f.arguments f.returns = true ↔
      (q.tokens tables c f).HasTypeOf c.modelsPackage ∨
        Qualifies c.modelsPackage (q.tokens tables c f).result := by
    rw [hasTypeOf_tokens hf, qualifies_result_tokens hf]
    simp only [(htype _).2.2, hcontext, false_or, QueryFile.namesModels, Bool.or_eq_true,
      List.any_eq_true]
    exact or_assoc.trans or_comm
  refine ⟨spells_tokens hf, ?_, ?_, ?_, ?_, ?_, ?_, ?_, ?_⟩
  · rw [(imports_of_file hf).1]
    exact List.Nodup.filter _ (by decide +kernel)
  · intro path hpath
    have hknown := ((mem_imports hf).mp hpath).1
    simpa [QueryFile.knownImports, or_comm] using hknown
  · exact (mem_imports hf).mpr ⟨by decide +kernel, .inl rfl⟩
  · rw [mem_imports hf, hasTypeOf_tokens hf, and_iff_right (by decide +kernel)]
    simp [(htype _).1, timeImport, jsonImport, QueryFile.contextImport]
  · have hne : jsonImport ≠ QueryFile.contextImport := by decide +kernel
    have hne' : "context" ≠ "json" := by decide +kernel
    rw [mem_imports hf, hasTypeOf_tokens hf, selects_unmarshal_tokens hf hm,
      and_iff_right (by decide +kernel)]
    simp only [(htype _).2.1, hne, hne', false_or, and_true, and_or_left, exists_or, or_assoc]
  · rw [(imports_of_file hf).2, ← hmodels]
    simp
  · rw [(imports_of_file hf).2, ← hmodels]
    simp
  · intro columns hq hq'
    obtain ⟨f', hf'⟩ := exists_file_of_not_synthesized (c := c) hq'
    exact ⟨f', hf', imports_congr_columns hq hq' hf hf'⟩

end Query

/-- The books of an author since a point in time: an argument is a time, and the rows have an
aggregate. -/
def booksSince : Query where
  name := "books_since"
  parameters := [⟨"since", { name := "timestamp" }, 1⟩]
  shape := .row
  columns := findAuthor.columns
  sql := "SELECT id, books, blog_posts FROM author_pages WHERE written > $1"

theorem file_imports_booksSince :
    ∃ f, booksSince.file [authors] { output := "out" } = .ok f ∧
      f.imports = ["context", "encoding/json", "time"] ∧ f.modelsImport? = some "out/models" ∧
      (booksSince.tokens [authors] { output := "out" } f).HasTypeOf "time" ∧
      ((booksSince.tokens [authors] { output := "out" } f).HasTypeOf "json" ∨
        Selects "json" "Unmarshal" (booksSince.tokens [authors] { output := "out" } f).body) ∧
      ((booksSince.tokens [authors] { output := "out" } f).HasTypeOf "models" ∨
        Qualifies "models" (booksSince.tokens [authors] { output := "out" } f).result) := by
  have hplan : (booksSince.plan [authors]).row? = some .synthesized := by decide +kernel
  obtain ⟨f, hf⟩ : ∃ f, booksSince.file [authors] { output := "out" } = .ok f :=
    (Query.exists_file_iff hplan).mpr
      ⟨_, Query.row_synthesized_eq_ok_iff.mpr ⟨by decide +kernel, rfl⟩⟩
  have hordered : booksSince.orderedParameters = booksSince.parameters :=
    Query.orderedParameters_eq (.refl _) (by decide)
  have harguments := Query.argument_of_file hf
  have hfields := (Query.rowFields_of_file hf).1
  rw [hordered] at harguments
  rw [if_pos hplan] at hfields
  have himports : f.imports = ["context", "encoding/json", "time"] := by
    rw [(Query.imports_of_file hf).1, QueryFile.neededImports, harguments, hfields]
    decide +kernel
  have hmodels : f.modelsImport? = some "out/models" := by
    rw [(Query.imports_of_file hf).2, QueryFile.namesModels, harguments, hfields]
    decide +kernel
  obtain ⟨-, -, -, -, htime, hjson, hmodels', -⟩ := Query.file_imports hf (by decide +kernel)
  exact ⟨f, hf, himports, hmodels, htime.mp (by rw [himports]; decide +kernel),
    hjson.mp (by rw [himports]; decide +kernel), hmodels'.mp hmodels⟩

end SchemaGo
