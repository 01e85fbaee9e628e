import Mathlib
import SchemaGo.Proofs.Merge.Names
import SchemaGo.Proofs.Query.Body

/-!
The file of a query is read back: whatever the statement and its columns, the file that is made
for it has a row type, if the query has one for itself, a constant and a function.
-/

namespace SchemaGo.QueryFile

open Go Grammar Lexeme

variable {f : QueryFile}

/-- The type of the rows, if the file declares it, with its fields. -/
def rowType? (f : QueryFile) : Option (String × List RowField) :=
  f.returns.row?.bind fun r => r.fields?.map fun fs => (r.type, fs)

/-- The names that the file declares. -/
def names (f : QueryFile) : List String :=
  (f.rowType?.map (·.1)).toList ++ [f.constant, f.function]

/-- The path of an import needs no escapes. -/
def isPlainPath (path : String) : Bool := stringLiteral path == "\"" ++ path ++ "\""

/-- The names in the file are names of the language. -/
structure Legal (f : QueryFile) : Prop where
  package : isWord f.package = true
  models : isTypeName f.models = true
  imports : ∀ p ∈ f.imports, isPlainPath p = true
  modelsImport : ∀ p ∈ f.modelsImport?, isPlainPath p = true
  constant : isTypeName f.constant = true
  function : isWord f.function = true
  arguments : ∀ a ∈ f.arguments, isTypeName a.name = true ∧ a.type.base.legal = true
  row : ∀ r ∈ f.returns.row?, ∃ ts, IsRowType ts ∧ spell ts = r.type
  targets : ∀ r ∈ f.returns.row?, ∀ t ∈ r.targets, t.legal = true
  rowType : ∀ p ∈ f.rowType?, isWord p.1 = true ∧
    ∀ x ∈ p.2, isWord x.name = true ∧ x.type.base.legal = true

/-! ### The function -/

/-- The lexemes of the parameters. -/
def parameterLexemes (f : QueryFile) : List (List Lexeme) :=
  [.word "ctx", .blank " ", .word "context", .mark '.', .word "Context"] ::
    [.word "db", .blank " ", .word "Querier"] ::
    f.arguments.map fun a => .word a.name :: .blank " " :: a.type.qualifiedLexemes f.models

lemma spell_parameterLexemes (f : QueryFile) :
    spell (commas f.parameterLexemes) = f.signature := by
  rw [spell_commas, parameterLexemes, List.map_cons, List.map_cons, List.map_map, signature,
    commaSeparated]
  congr 3
  refine List.map_congr_left fun a _ => ?_
  simp [spell_cons, Lexeme.text, ColumnType.spell_qualifiedLexemes, ← String.append_assoc]

/-- The lexemes of the results, where those of the type of a row are `ts`. -/
def resultLexemes (ts : List Lexeme) : Returns Row → List Lexeme
  | .one _ => .mark '(' :: (commas [ts, [.word "error"]] ++ [.mark ')'])
  | .many _ => .mark '(' :: (commas [.mark '[' :: .mark ']' :: ts, [.word "error"]] ++ [.mark ')'])
  | .errorOnly => [.word "error"]
  | .affectedRows => .mark '(' :: (commas [[.word "int64"], [.word "error"]] ++ [.mark ')'])

lemma spell_resultLexemes {ts : List Lexeme} (hts : ∀ r ∈ f.returns.row?, spell ts = r.type) :
    spell (resultLexemes ts f.returns) = f.resultType := by
  have ht : ∀ r ∈ f.returns.row?, chars ts = r.type.toList := fun r hr => by
    rw [← hts r hr, toList_spell_eq_chars]
  apply String.toList_injective
  unfold resultType resultLexemes
  cases hr : f.returns with
  | one r | many r =>
    simp [toList_spell_eq_chars, commas, Lexeme.text, ht r (by rw [hr]; rfl)]
  | errorOnly | affectedRows => rfl

lemma isResult_resultLexemes {ts : List Lexeme} (hts : ∀ r ∈ f.returns.row?, IsRowType ts) :
    IsResult (resultLexemes ts f.returns) := by
  have herror : IsParameter [.word "error"] := isParameter_name (by decide +kernel)
  cases hr : f.returns with
  | one r =>
    have ht := hts r (by rw [hr]; rfl)
    exact isResult_list (by simpa using ⟨ht.isParameter, herror⟩)
  | many r =>
    have ht := hts r (by rw [hr]; rfl)
    have hs := isParameter_slice ht.isType (ht.runs.mono (by omega))
    exact isResult_list (by simpa using ⟨hs, herror⟩)
  | errorOnly => exact isResult_error
  | affectedRows =>
    have hint : IsParameter [.word "int64"] := isParameter_name (by decide +kernel)
    exact isResult_list (by simpa using ⟨hint, herror⟩)

/-- The text of the function. -/
def functionText (f : QueryFile) : String :=
  "func " ++ f.function ++ "(" ++ f.signature ++ ") " ++ f.resultType ++ " \x7b\n" ++
    f.renderBody ++ "\x7d"

/-- **The function of a query is read back.** -/
theorem readsAs_functionText (hf : f.Legal) :
    ∃ qualifiers, ReadsAs f.functionText (.other .function [f.function]) qualifiers := by
  obtain ⟨ts, hts⟩ : ∃ ts, ∀ r ∈ f.returns.row?, IsRowType ts ∧ spell ts = r.type := by
    rcases hr : f.returns.row? with _ | r
    · exact ⟨[], by simp⟩
    · obtain ⟨ts, ht⟩ := hf.row r hr
      exact ⟨ts, by simpa using ht⟩
  have hparams : ∀ x ∈ f.parameterLexemes, IsParameter x := by
    simp only [parameterLexemes, List.forall_mem_cons]
    refine ⟨isParameter_named (by decide +kernel)
        (isType_qualified (by decide +kernel) (by decide +kernel)),
      isParameter_named (by decide +kernel) (isType_name (by decide +kernel)), ?_⟩
    intro x hx
    obtain ⟨a, ha, rfl⟩ := List.mem_map.mp hx
    obtain ⟨hn, ht⟩ := hf.arguments a ha
    exact isParameter_named hn (ColumnType.isType_qualifiedLexemes hf.models ht)
  have hcall : ∀ x ∈ f.callLexemes, IsArgument x := by
    refine isArgument_words ?_
    simp only [List.forall_mem_cons]
    refine ⟨by decide +kernel, hf.constant, fun x hx => ?_⟩
    obtain ⟨a, ha, rfl⟩ := List.mem_map.mp hx
    exact (hf.arguments a ha).1
  have hbody := isStatement_body hcall fun r hr => ⟨(hts r hr).1, hf.targets r hr⟩
  have hresult := isResult_resultLexemes fun r hr => (hts r hr).1
  have hread := readsAs_function hparams hresult hbody hf.function
  have hspell : spell (.word "func" :: functionLexemes f.function f.parameterLexemes
      (resultLexemes ts f.returns) (f.bodyLexemes ts)) = f.functionText := by
    have h₁ := congrArg String.toList f.spell_parameterLexemes
    have h₂ := congrArg String.toList (spell_resultLexemes fun r hr => (hts r hr).2)
    have h₃ := congrArg String.toList (f.spell_bodyLexemes fun r hr => (hts r hr).2)
    rw [toList_spell_eq_chars] at h₁ h₂ h₃
    apply String.toList_injective
    simp [toList_spell_eq_chars, functionLexemes, blockLexemes, indent, functionText, Lexeme.text,
      h₁, h₂, h₃]
  rwa [hspell] at hread

/-! ### The declarations -/

def rowFieldDecl (f : QueryFile) (r : RowField) : Field := .named r.name (r.type.qualified f.models)

/-- The declarations of the file, each behind a blank line. -/
def decls (f : QueryFile) : List Decl :=
  (f.rowType?.map fun p => Decl.generated (renderStruct p.1 (p.2.map f.rowFieldDecl))
    (structShape p.1 (p.2.map f.rowFieldDecl))).toList ++
    [Decl.generated ("const " ++ f.constant ++ " = " ++ sqlLiteral f.sql)
      (.consts [⟨[f.constant], none⟩]),
    Decl.generated f.functionText (.other .function [f.function])]

lemma names_decls (f : QueryFile) : f.decls.flatMap (·.shape.names) = f.names := by
  rw [decls, names]
  rcases f.rowType? with _ | p <;> rfl

lemma tidy_decls (hf : f.Legal) : ∀ d ∈ f.decls, d.Tidy := by
  have hgenerated : ∀ {body shape}, (∃ qualifiers, ReadsAs body shape qualifiers) →
      (Decl.generated body shape).Tidy := by
    rintro body shape ⟨qualifiers, h⟩
    exact ⟨⟨[], rfl, above_nil _⟩, qualifiers, h, by simp [Decl.generated]⟩
  intro d hd
  rw [decls, List.mem_append] at hd
  rcases hd with hd | hd
  · obtain ⟨p, hp, rfl⟩ : ∃ p ∈ f.rowType?,
        Decl.generated (renderStruct p.1 (p.2.map f.rowFieldDecl))
          (structShape p.1 (p.2.map f.rowFieldDecl)) = d := by simpa using hd
    obtain ⟨hn, hfields⟩ := hf.rowType p hp
    refine hgenerated (readsAs_struct hn fun x hx => ?_)
    obtain ⟨r, hr, rfl⟩ := List.mem_map.mp hx
    obtain ⟨hrn, hrt⟩ := hfields r hr
    exact ⟨hrn, _, ColumnType.isType_qualifiedLexemes hf.models hrt,
      ColumnType.spell_qualifiedLexemes _ _⟩
  · simp only [List.mem_cons, List.not_mem_nil, or_false] at hd
    rcases hd with rfl | rfl
    · exact hgenerated (readsAs_constant (Bool.and_eq_true_iff.mp hf.constant).1 f.sql)
    · exact hgenerated (readsAs_functionText hf)

/-! ### The imports -/

/-- The lines of the imports. -/
def importLines (f : QueryFile) : String :=
  String.join (f.imports.map importEntry) ++
    (f.modelsImport?.elim "" fun path => "\n" ++ importEntry path)

lemma groupLines_blankLine (imports : List ImportSpec) (leading : List String) :
    GroupLines "\n" ⟨imports, leading, false⟩ ⟨imports, leading, false⟩ :=
  ⟨[.newline], [.lineBreak], rfl, fun cs => ⟨reads_newline cs, trivial⟩, rfl,
    fun _ _ _ h => h.newline⟩

/-- What the entry of a path is read as. -/
def importSpec (path : String) : ImportSpec :=
  ⟨[], "\"" ++ path ++ "\"", none, unquote ("\"" ++ path ++ "\"")⟩

lemma groupLines_imports (hf : f.Legal) :
    ∃ imports, GroupLines f.importLines ⟨[], [], false⟩ ⟨imports, [], false⟩ := by
  have htidy : ∀ {p}, isPlainPath p = true → (importSpec p).Tidy := fun h =>
    Merge.tidy_quoted (beq_iff_eq.mp h)
  have hline : ∀ p, File.importLine ("\"" ++ p ++ "\"") = importEntry p := fun p => rfl
  have hstd : GroupLines (String.join (f.imports.map importEntry)) ⟨[], [], false⟩
      ⟨f.imports.map importSpec, [], false⟩ := by
    have hspecs : ∀ s ∈ f.imports.map importSpec, s.Tidy := by
      intro s hs
      obtain ⟨p, hp, rfl⟩ := List.mem_map.mp hs
      exact htidy (hf.imports p hp)
    have h := groupLines_entries [] hspecs
    have hlines : entryLines ∘ importSpec = importEntry := by
      funext p
      simp [entryLines, importSpec, hline]
    rwa [List.map_map, hlines] at h
  unfold importLines
  rcases hm : f.modelsImport? with _ | p
  · exact ⟨f.imports.map importSpec, by simpa using hstd⟩
  · have h := groupLines_entry (f.imports.map importSpec) (htidy (hf.modelsImport p hm))
    exact ⟨_, hstd.append ((groupLines_blankLine _ []).append h)⟩

/-! ### The whole file -/

/-- A file is made of whole lines. -/
lemma render_eq_lines (f : QueryFile) :
    f.render = (File.empty f.package).packageLine ++ "\n" ++
      ("\n" ++ (spell [] ++ ("import (\n" ++ f.importLines ++ ")") ++ "\n") ++
        allDeclLines f.decls) := by
  have hrow : f.renderRowType = (f.rowType?.elim "" fun p =>
      "\n" ++ renderStruct p.1 (p.2.map f.rowFieldDecl) ++ "\n") := by
    have hfield : (fun r : RowField => Field.named r.name (r.type.qualified f.models)) =
        f.rowFieldDecl := rfl
    unfold renderRowType rowType?
    rcases f.returns.row? with _ | ⟨type, _ | fields, targets⟩
    · rfl
    · rfl
    · simp only [hfield, Option.bind_some, Option.map_some, Option.elim_some]
  unfold render
  rw [hrow, decls]
  apply String.toList_injective
  rcases f.rowType? with _ | p <;>
    simp [allDeclLines, declLines, functionText, Decl.generated, File.empty, renderImports,
      importLines]

/-- **The file of a query is read back**, and declares the names of the query. -/
theorem read_render (hf : f.Legal) :
    ∃ g, File.read f.render = .ok g ∧ Merge.namesOf g = f.names := by
  have hempty := Merge.tidy_empty hf.package
  obtain ⟨package, h₁⟩ := section_package "" hempty.packageLine
  obtain ⟨imports, hgroup⟩ := groupLines_imports hf
  have h₂ := section_blankLine.append (section_group
    { header := trimmed Text.trimStart ""
      packageLine := (File.empty f.package).packageLine
      package } .package (above_nil _) hgroup rfl (by decide +kernel))
  obtain ⟨ds, last, hds, h₃⟩ := section_allDeclLines _ _ (tidy_decls hf)
  have hall : f.render = "" ++ ((File.empty f.package).packageLine ++ "\n" ++
      ("\n" ++ (spell [] ++ ("import (\n" ++ f.importLines ++ ")") ++ "\n") ++
        allDeclLines f.decls)) := by
    rw [render_eq_lines, String.empty_append]
  have hp : ∃ cs, ((File.empty f.package).packageLine ++ "\n" ++
      ("\n" ++ (spell [] ++ ("import (\n" ++ f.importLines ++ ")") ++ "\n") ++
        allDeclLines f.decls)).toList = 'p' :: cs := by
    exact ⟨_, by
      simp only [File.empty, String.toList_append, List.append_assoc]
      rfl⟩
  obtain ⟨s, ⟨before, rfl⟩, hread⟩ := read_eq_final hempty.header (h₁.append (h₂.append h₃)) hp <| by
    rintro s ⟨before, hs⟩
    rw [hs]
  refine ⟨_, by rw [hall]; exact hread, ?_⟩
  calc Merge.namesOf _ = ds.flatMap (·.shape.names) := by
        simp [Merge.namesOf, ReadState.final]
    _ = f.decls.flatMap (·.shape.names) := Merge.names_of_readBack hds.decls
    _ = f.names := f.names_decls

end SchemaGo.QueryFile
