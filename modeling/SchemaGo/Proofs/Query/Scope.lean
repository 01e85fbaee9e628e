import Mathlib
import SchemaGo.Proofs.Query.Arguments
import SchemaGo.Proofs.Query.Rows

/-!
What the names in the body of a function stand for. The body names what is declared in it, what its
package declares and what the language declares beforehand; an argument of one of these names would
be meant in its place.
-/

namespace SchemaGo

open Go Grammar Lexeme Naming

variable {q : Query} {tables : List Table} {c : Config} {f : QueryFile}

/-! ### Words that stand alone -/

namespace Go

variable {ts us : List Lexeme} {b : Bool}

/-- The words that are not behind a point. Whether a point is in front of the first lexeme says
`behind`. -/
def freeWords (behind : Bool) : List Lexeme → List String
  | [] => []
  | .word w :: ts => if behind then freeWords false ts else w :: freeWords false ts
  | .mark m :: ts => freeWords (m == '.') ts
  | _ :: ts => freeWords false ts

/-- The words that are looked up where they stand: those that are not behind a point and that are
no keywords. -/
def identifiers (ts : List Lexeme) : List String :=
  (freeWords false ts).filter fun w => !keywords.contains w

@[simp] lemma freeWords_nil : freeWords b [] = [] := rfl

@[simp] lemma freeWords_word (w : String) (ts : List Lexeme) :
    freeWords false (.word w :: ts) = w :: freeWords false ts := rfl

@[simp] lemma freeWords_behind (w : String) (ts : List Lexeme) :
    freeWords true (.word w :: ts) = freeWords false ts := rfl

@[simp] lemma freeWords_mark (m : Char) (ts : List Lexeme) :
    freeWords b (.mark m :: ts) = freeWords (m == '.') ts := rfl

@[simp] lemma freeWords_blank (s : String) (ts : List Lexeme) :
    freeWords b (.blank s :: ts) = freeWords false ts := rfl

@[simp] lemma freeWords_newline (ts : List Lexeme) :
    freeWords b (.newline :: ts) = freeWords false ts := rfl

lemma freeWords_append (hu : ∀ w vs, us ≠ .word w :: vs) :
    freeWords b (ts ++ us) = freeWords b ts ++ freeWords false us := by
  fun_induction freeWords b ts with
  | case1 b =>
    rcases us with _ | ⟨u, us⟩
    · rfl
    · cases u with
      | word w => exact absurd rfl (hu w us)
      | _ => rfl
  | case2 w ts ih => simp [ih]
  | case3 b w ts hb ih => simp [hb, ih]
  | case4 b m ts ih => simpa using ih
  | case5 b t ts hword hmark ih => simpa [freeWords] using ih

@[simp] lemma freeWords_append_mark {m : Char} :
    freeWords b (ts ++ .mark m :: us) = freeWords b ts ++ freeWords (m == '.') us :=
  freeWords_append (by simp)

@[simp] lemma freeWords_append_blank {s : String} :
    freeWords b (ts ++ .blank s :: us) = freeWords b ts ++ freeWords false us :=
  freeWords_append (by simp)

@[simp] lemma freeWords_append_newline :
    freeWords b (ts ++ .newline :: us) = freeWords b ts ++ freeWords false us :=
  freeWords_append (by simp)

/-! #### Of lists and lines -/

@[simp] lemma freeWords_indent (n : ℕ) : freeWords false (indent n ++ ts) = freeWords false ts := by
  unfold indent
  split <;> rfl

lemma freeWords_commas (xs : List (List Lexeme)) :
    freeWords false (commas xs) = xs.flatMap (freeWords false) := by
  fun_induction commas xs with
  | case1 => rfl
  | case2 x => simp
  | case3 x y xs ih => simp [ih]

lemma freeWords_lines (n : ℕ) (xs : List (List Lexeme)) (ts : List Lexeme) :
    freeWords false (lineLexemes n xs ++ ts) =
      xs.flatMap (freeWords false) ++ freeWords false ts := by
  induction xs with
  | nil => rfl
  | cons x xs ih =>
    rw [lineLexemes, List.flatMap_cons, ← lineLexemes]
    simp [ih]

/-! #### Of statements -/

variable {xs : List (List Lexeme)} {w m : String}

lemma freeWords_call (head : List Lexeme) :
    freeWords false (callLexemes head xs) =
      freeWords false head ++ xs.flatMap (freeWords false) := by
  simp [callLexemes, freeWords_commas]

lemma freeWords_define (head : List Lexeme) :
    freeWords false (defineLexemes head w m xs) =
      freeWords false head ++ w :: xs.flatMap (freeWords false) := by
  simp [defineLexemes, freeWords_call, defines, methodLexemes]

lemma freeWords_return :
    freeWords false (returnLexemes w m xs) = "return" :: w :: xs.flatMap (freeWords false) := by
  simp [returnLexemes, freeWords_call, methodLexemes]

lemma freeWords_failedCall :
    freeWords false (failedCall w m xs) =
      "err" :: w :: xs.flatMap (freeWords false) ++ ["err", "nil"] := by
  simp [failedCall, failed, freeWords_define]

lemma freeWords_withBlock (n : ℕ) :
    freeWords false (withBlock n ts xs) = freeWords false ts ++ xs.flatMap (freeWords false) := by
  have hclose : freeWords false (indent n ++ [.mark '\x7d']) = [] := freeWords_indent n
  simp [withBlock, blockLexemes, freeWords_lines, hclose]

end Go

/-! ### The body of a query -/

/-- The name is needed to decode a target of the row: the bytes, their type, or what takes their
length. -/
def Row.DecodesWith (r : Row) (x : String) : Prop :=
  ∃ b field, .decoded b field ∈ r.targets ∧ x ∈ ["len", "byte", b]

namespace QueryFile

lemma freeWords_guard (n : ℕ) (condition inner : List Lexeme) :
    freeWords false (guardLexemes n condition inner) =
      "if" :: freeWords false condition ++ freeWords false inner := by
  simp [guardLexemes, freeWords_withBlock]

lemma freeWords_words (xs : List String) : (words xs).flatMap (freeWords false) = xs := by
  induction xs with
  | nil => rfl
  | cons x xs ih =>
    rw [words, List.map_cons, List.flatMap_cons, ← words, ih]
    rfl

lemma freeWords_var (b : String) (ts : List Lexeme) :
    freeWords false (varLexemes b ts) = "var" :: b :: freeWords false ts := rfl

lemma freeWords_decodeOne (n : ℕ) (failure : List Lexeme) (b field : String) :
    freeWords false (decodeOne n failure b field) =
      ["if", "len", b, "if", "err", "json", b, "i", "err", "nil"] ++ freeWords false failure := by
  simp [decodeOne, freeWords_guard, nonempty, freeWords_call, freeWords_failedCall,
    Target.lexemes, freeWords]

/-- What the lines name that are there for each target that is decoded. -/
lemma mem_freeWords_filterMap {r : Row} {x : String} {g : Target → Option (List Lexeme)}
    (hfield : ∀ field, g (.field field) = none) :
    x ∈ (r.targets.filterMap g).flatMap (freeWords false) ↔
      ∃ b field, .decoded b field ∈ r.targets ∧ ∃ us, g (.decoded b field) = some us ∧
        x ∈ freeWords false us := by
  simp only [List.mem_flatMap, List.mem_filterMap]
  constructor
  · rintro ⟨us, ⟨field | ⟨b, field⟩, ht, hus⟩, hx⟩
    · simp [hfield] at hus
    · exact ⟨b, field, ht, us, hus, hx⟩
  · rintro ⟨b, field, ht, us, hus, hx⟩
    exact ⟨us, ⟨_, ht, hus⟩, hx⟩

/-! #### Names that are not reserved -/

section Names

variable {x : String} (hx : x ∉ reserved)

include hx

lemma forall_ne_of_not_mem_reserved {ws : List String} (hws : ∀ w ∈ ws, w ∈ reserved) :
    ∀ w ∈ ws, x ≠ w := by
  rintro w hw rfl
  exact hx (hws x hw)

lemma mem_freeWords_declare (r : Row) :
    x ∈ (declareLexemes r).flatMap (freeWords false) ↔
      ∃ b field, .decoded b field ∈ r.targets ∧ (x = b ∨ x = "byte") := by
  have hne : ∀ w ∈ ["var"], x ≠ w := forall_ne_of_not_mem_reserved hx (by decide)
  have hbyte : freeWords false bytesLexemes = ["byte"] := rfl
  rw [declareLexemes, mem_freeWords_filterMap fun _ => rfl]
  simp [freeWords_var, hbyte, hne]

lemma mem_freeWords_scan (r : Row) :
    x ∈ (scanLexemes r).flatMap (freeWords false) ↔
      ∃ b field, .decoded b field ∈ r.targets ∧ x = b := by
  have hne : ∀ w ∈ ["i"], x ≠ w := forall_ne_of_not_mem_reserved hx (by decide)
  simp only [scanLexemes, List.mem_flatMap, List.mem_map]
  constructor
  · rintro ⟨_, ⟨field | ⟨b, field⟩, ht, rfl⟩, hx⟩
    · exact absurd (List.mem_singleton.mp hx) (hne _ (by simp))
    · exact ⟨b, field, ht, List.mem_singleton.mp hx⟩
  · rintro ⟨b, field, ht, rfl⟩
    exact ⟨_, ⟨_, ht, rfl⟩, List.mem_singleton.mpr rfl⟩

lemma mem_freeWords_decode (n : ℕ) (failure : List Lexeme) (r : Row) :
    x ∈ (decodeLexemes n failure r).flatMap (freeWords false) ↔
      ∃ b field, .decoded b field ∈ r.targets ∧
        (x = "len" ∨ x = b ∨ x = "nil" ∨ x ∈ freeWords false failure) := by
  have hne : ∀ w ∈ ["if", "err", "json", "i"], x ≠ w :=
    forall_ne_of_not_mem_reserved hx (by decide)
  simp only [List.forall_mem_cons] at hne
  rw [decodeLexemes, mem_freeWords_filterMap fun _ => rfl]
  simp [freeWords_decodeOne, hne]

/-- What reads a row names the type of the row, what it decodes with, and that nothing has
failed. -/
lemma mem_freeWords_readRow (n : ℕ) (ts failure : List Lexeme) {cursor : String}
    (hcursor : cursor ∈ reserved) (hfailure : x ∈ freeWords false failure → x = "nil") (r : Row) :
    x ∈ (readRow n ts failure cursor r).flatMap (freeWords false) ↔
      x = "nil" ∨ x ∈ freeWords false ts ∨ r.DecodesWith x := by
  have hne : ∀ w ∈ ["var", "if", "err", "i", cursor], x ≠ w :=
    forall_ne_of_not_mem_reserved hx (by simpa [hcursor] using by decide)
  simp only [List.forall_mem_cons] at hne
  have hread : x ∈ (readRow n ts failure cursor r).flatMap (freeWords false) ↔
      x ∈ freeWords false ts ∨ x ∈ (declareLexemes r).flatMap (freeWords false) ∨
        x ∈ (scanLexemes r).flatMap (freeWords false) ∨ x = "nil" ∨
        x ∈ freeWords false failure ∨
        x ∈ (decodeLexemes n failure r).flatMap (freeWords false) := by
    simp only [readRow, List.flatMap_append, List.flatMap_cons, freeWords_var, freeWords_guard,
      freeWords_failedCall, List.mem_append, List.mem_cons, hne, List.not_mem_nil, false_or,
      or_false, or_assoc]
  rw [hread, mem_freeWords_declare hx, mem_freeWords_scan hx, mem_freeWords_decode hx]
  -- the bytes are named in all three parts, their type where they are declared, and what takes
  -- their length where they are decoded
  constructor
  · rintro (h | ⟨b, field, ht, h⟩ | ⟨b, field, ht, h⟩ | h | h | ⟨b, field, ht, h | h | h | h⟩)
    · exact .inr (.inl h)
    · exact .inr (.inr ⟨b, field, ht, by rcases h with rfl | rfl <;> simp⟩)
    · exact .inr (.inr ⟨b, field, ht, by simp [h]⟩)
    · exact .inl h
    · exact .inl (hfailure h)
    · exact .inr (.inr ⟨b, field, ht, by simp [h]⟩)
    · exact .inr (.inr ⟨b, field, ht, by simp [h]⟩)
    · exact .inl h
    · exact .inl (hfailure h)
  · rintro (h | h | ⟨b, field, ht, h⟩)
    · exact .inr (.inr (.inr (.inl h)))
    · exact .inl h
    · simp only [List.mem_cons, List.not_mem_nil, or_false] at h
      rcases h with h | h | h
      · exact .inr (.inr (.inr (.inr (.inr ⟨b, field, ht, .inl h⟩))))
      · exact .inr (.inl ⟨b, field, ht, .inr h⟩)
      · exact .inr (.inl ⟨b, field, ht, .inl h⟩)

/-- **What a body names.** Beside reserved names these are the constant, the arguments, and what
the rows need. -/
lemma mem_freeWords_body (hblank : x ≠ "_") (f : QueryFile) (ts : List Lexeme) :
    x ∈ freeWords false (lineLexemes 1 (f.bodyLexemes ts)) ↔
      x = f.constant ∨ x ∈ f.arguments.map (·.name) ∨
        match f.returns with
        | .one r => x = "nil" ∨ x ∈ freeWords false ts ∨ r.DecodesWith x
        | .many r => x = "nil" ∨ x = "append" ∨ x ∈ freeWords false ts ∨ r.DecodesWith x
        | .errorOnly | .affectedRows => False := by
  have hne : ∀ w ∈ ["ctx", "db", "err", "return", "row", "rows", "i", "items", "if", "for",
      "defer", "var"], x ≠ w := forall_ne_of_not_mem_reserved hx (by decide)
  simp only [List.forall_mem_cons] at hne
  have hcall : x ∈ f.callLexemes.flatMap (freeWords false) ↔
      x = f.constant ∨ x ∈ f.arguments.map (·.name) := by
    rw [callLexemes, freeWords_words, List.mem_cons, List.mem_cons, or_iff_right hne.1]
  have hlines := freeWords_lines 1 (f.bodyLexemes ts) []
  rw [List.append_nil, freeWords_nil, List.append_nil] at hlines
  rw [hlines]
  unfold bodyLexemes
  cases hr : f.returns with
  | one r =>
    have hfailure : freeWords false (returnPair "i" "err") = ["return", "i", "err"] := rfl
    have hdone : freeWords false (returnPair "i" "nil") = ["return", "i", "nil"] := rfl
    have hread := mem_freeWords_readRow hx 1 ts (returnPair "i" "err")
      (by decide : "row" ∈ reserved) (by simp [hfailure, hne]) r
    simp only [List.flatMap_cons, List.flatMap_append, List.flatMap_nil, freeWords_define,
      freeWords_word, freeWords_nil, List.append_nil, List.mem_append, List.mem_cons,
      List.not_mem_nil, hread, hcall, hdone, hne, false_or, or_false]
    grind
  | many r =>
    -- the lines that are the same in all functions
    have hnames : freeWords false [.word "rows", .mark ',', .blank " ", .word "err"] =
        ["rows", "err"] := rfl
    have hfailed : freeWords false failed = ["err", "nil"] := rfl
    have hfailure : freeWords false (returnPair "nil" "err") = ["return", "nil", "err"] := rfl
    have hclose : freeWords false closeRows = ["defer", "rows"] := rfl
    have hslice : freeWords false (.mark '[' :: .mark ']' :: ts) = freeWords false ts := rfl
    have hloop : freeWords false forRows = ["for", "rows"] := rfl
    have hitem : freeWords false appendItem = ["items", "append", "items", "i"] := rfl
    have hdone : freeWords false (returnPair "items" "nil") = ["return", "items", "nil"] := rfl
    have hread := mem_freeWords_readRow hx 2 ts (returnPair "nil" "err")
      (by decide : "rows" ∈ reserved) (by simp [hfailure, hne]) r
    simp only [List.flatMap_cons, List.flatMap_append, List.flatMap_nil, freeWords_define,
      freeWords_withBlock, freeWords_guard, freeWords_failedCall, freeWords_var, hnames, hfailed,
      hfailure, hclose, hslice, hloop, hitem, hdone, List.append_nil, List.mem_append,
      List.mem_cons, List.not_mem_nil, hread, hcall, hne, false_or, or_false]
    grind
  | errorOnly =>
    have hnames : freeWords false [.word "_", .mark ',', .blank " ", .word "err"] =
        ["_", "err"] := rfl
    have hdone : freeWords false returnErr = ["return", "err"] := rfl
    simp only [List.flatMap_cons, List.flatMap_nil, freeWords_define, hnames, List.append_nil,
      List.mem_append, List.mem_cons, List.not_mem_nil, hcall, hdone, hblank, hne, false_or,
      or_false]
  | affectedRows =>
    simp only [List.flatMap_cons, List.flatMap_nil, freeWords_return, List.append_nil,
      List.mem_cons, hcall, hne, false_or, or_false]

end Names

/-! #### Lexemes -/

variable {ts : List Lexeme}

/-- The body is read as its lexemes. -/
lemma scan_body (hcall : ∀ x ∈ f.callLexemes, IsArgument x)
    (hrow : ∀ r ∈ f.returns.row?, IsRowType ts ∧ (∀ t ∈ r.targets, t.legal = true) ∧
      spell ts = r.type) :
    scan f.renderBody = lineLexemes 1 (f.bodyLexemes ts) := by
  have hbody := isStatement_body hcall fun r hr => ⟨(hrow r hr).1, (hrow r hr).2.1⟩
  have hspell := f.spell_bodyLexemes fun r hr => (hrow r hr).2.2
  have hhead : f.renderBody.toList.head? ≠ some '\uFEFF' := by
    obtain ⟨x, xs, hlines⟩ : ∃ x xs, f.bodyLexemes ts = x :: xs := by
      unfold bodyLexemes
      cases f.returns <;> exact ⟨_, _, rfl⟩
    rw [← hspell, hlines, spell_lineLexemes_cons]
    simp [line]
  have hscan := scanAll_readsAll (reads_lineLexemes hbody 1 [])
  rw [scan_eq_scanAll hhead, ← hspell, toList_spell_eq_chars]
  simpa using hscan

end QueryFile

namespace Query

/-- The lexemes of the type of a row. -/
def rowTypeLexemes (q : Query) (models : String) : RowBinding → List Lexeme
  | .table t => [.word models, .mark '.', .word t.typeName]
  | .synthesized => [.word (pascalCase q.name ++ "Row")]

lemma spell_rowTypeLexemes {models : String} {b : RowBinding} {r : Row}
    (h : q.row models b = .ok r) : spell (q.rowTypeLexemes models b) = r.type := by
  cases b with
  | table t =>
    obtain rfl := Except.ok.inj h
    simp [rowTypeLexemes, spell_cons, Lexeme.text, ← String.append_assoc]
  | synthesized =>
    obtain ⟨-, rfl⟩ := row_synthesized_eq_ok_iff.mp h
    simp [rowTypeLexemes, spell_cons, Lexeme.text]

lemma isRowType_rowTypeLexemes (hq : q.Plain) {models : String} (hm : isTypeName models = true)
    {b : RowBinding} (hb : ∀ t, b = .table t → isPlainName t.name = true) :
    IsRowType (q.rowTypeLexemes models b) := by
  cases b with
  | table t =>
    have ht := isTypeName_of_isPascalName (isPascalName_pascalCase (hb t rfl))
    exact .qualified hm (Bool.and_eq_true_iff.mp ht).1
  | synthesized => exact .name (isTypeName_of_isPascalName (isPascalName_row hq.name))

/-- The lexemes of the body of a function for the query. -/
def bodyTokens (q : Query) (tables : List Table) (c : Config) (f : QueryFile) : List Lexeme :=
  lineLexemes 1 (f.bodyLexemes
    ((q.plan tables).row?.elim [] (q.rowTypeLexemes c.modelsPackage)))

lemma spell_bodyTokens (hf : q.file tables c = .ok f) :
    spell (q.bodyTokens tables c f) = f.renderBody := by
  refine f.spell_bodyLexemes fun r hr => ?_
  obtain ⟨b, hb, hrow⟩ := exists_row_of_file hf hr
  rw [hb]
  exact spell_rowTypeLexemes hrow

/-- The body of a plain query is read as these lexemes. -/
lemma Plain.scan_body (hq : q.Plain) (hm : isTypeName c.modelsPackage = true)
    (htables : ∀ t ∈ tables, isPlainName t.name = true) (hf : q.file tables c = .ok f) :
    scan f.renderBody = q.bodyTokens tables c f := by
  refine QueryFile.scan_body ?_ fun r hr => ?_
  · refine QueryFile.isArgument_words ?_
    simp only [List.forall_mem_cons]
    refine ⟨by decide +kernel, ?_, ?_⟩
    · rw [constant_of_file hf]
      exact isTypeName_camelCase_append hq.name (by decide +kernel) (by decide +kernel)
    · rw [arguments_of_file hf]
      refine List.forall_mem_map.mpr fun p hp => isTypeName_argumentName ?_
      exact (hq.parameters p (List.mem_mergeSort.mp hp)).1
  · obtain ⟨b, hb, hrow⟩ := exists_row_of_file hf hr
    have hplain : ∀ t, b = .table t → isPlainName t.name = true := fun t ht =>
      htables t (mem_of_plan (by rw [hb, ht]))
    rw [hb]
    exact ⟨isRowType_rowTypeLexemes hq hm hplain, (hq.row hm hplain hrow).targets,
      spell_rowTypeLexemes hrow⟩

end Query

/-! ### What an argument must not be called -/

/-- The body names the bytes of an aggregate, their type, and what takes their length. -/
def ResultColumn.exposed (r : ResultColumn) : List String :=
  if r.element?.isSome then ["len", "byte", argumentName (r.name ++ "_raw")] else []

namespace Query

/-- What the body names to read rows: their type, or the package of it, and the bytes of
aggregates. -/
def exposedBy (q : Query) (models : String) : RowBinding → List String
  | .table _ => [models]
  | .synthesized => (pascalCase q.name ++ "Row") :: q.columns.flatMap (·.exposed)

/-- What the body names beside reserved names and arguments. -/
def exposed (q : Query) (tables : List Table) (models : String) : List String :=
  (camelCase q.name ++ "SQL") ::
    match q.plan tables with
    | .one b => "nil" :: q.exposedBy models b
    | .many b => "nil" :: "append" :: q.exposedBy models b
    | .errorOnly | .affectedRows => []

lemma mem_exposedBy {models x : String} {b : RowBinding} {r : Row} (h : q.row models b = .ok r) :
    x ∈ freeWords false (q.rowTypeLexemes models b) ∨ r.DecodesWith x ↔
      x ∈ q.exposedBy models b := by
  cases b with
  | table t =>
    obtain rfl := Except.ok.inj h
    simp [rowTypeLexemes, exposedBy, Row.DecodesWith]
  | synthesized =>
    obtain ⟨-, rfl⟩ := row_synthesized_eq_ok_iff.mp h
    have hcolumns : Row.DecodesWith ⟨pascalCase q.name ++ "Row",
        some (q.columns.map (·.rowField)), (q.columns.map (·.rowField)).map (·.target)⟩ x ↔
        x ∈ q.columns.flatMap (·.exposed) := by
      simp only [Row.DecodesWith, List.mem_map, List.mem_flatMap]
      constructor
      · rintro ⟨b, field, ⟨_, ⟨r, hr, rfl⟩, ht⟩, hx⟩
        refine ⟨r, hr, ?_⟩
        cases he : r.element? with
        | none => simp [ResultColumn.rowField_of_none he] at ht
        | some element =>
          simp only [ResultColumn.rowField_of_some he, Target.decoded.injEq] at ht
          simpa [ResultColumn.exposed, he, ht.1] using hx
      · rintro ⟨r, hr, hx⟩
        cases he : r.element? with
        | none => simp [ResultColumn.exposed, he] at hx
        | some element =>
          refine ⟨_, _, ⟨_, ⟨r, hr, rfl⟩, by rw [ResultColumn.rowField_of_some he]⟩, ?_⟩
          simpa [ResultColumn.exposed, he] using hx
    rw [hcolumns]
    simp [rowTypeLexemes, exposedBy]

/-- **Which arguments are captured.** No argument has a reserved name. The body uses the name of an
argument with another meaning, that is, it names it also if there are no arguments, if and only if
that is the constant, the type of the rows or the package of it, or among the names that the
language declares and the bytes of aggregates. -/
theorem argument_mem_identifiers_iff (hf : q.file tables c = .ok f) :
    spell (q.bodyTokens tables c f) = f.renderBody ∧
      (q.Plain → isTypeName c.modelsPackage = true → (∀ t ∈ tables, isPlainName t.name = true) →
        scan f.renderBody = q.bodyTokens tables c f) ∧
      ∀ p ∈ q.parameters, argumentName p.name ∉ reserved ∧
        (argumentName p.name ∈ identifiers (q.bodyTokens tables c { f with arguments := [] }) ↔
          argumentName p.name ∈ q.exposed tables c.modelsPackage) := by
  refine ⟨spell_bodyTokens hf, fun hq hm htables => hq.scan_body hm htables hf, fun p hp => ?_⟩
  have hx := argumentName_not_mem_reserved p.name
  have hkeyword : argumentName p.name ∉ keywords := fun h => hx (List.mem_append_left _ h)
  refine ⟨hx, ?_⟩
  rw [identifiers, List.mem_filter, and_iff_left (by simpa using hkeyword), bodyTokens,
    QueryFile.mem_freeWords_body hx (argumentName_ne_blank _)]
  obtain ⟨row, hreturns, hrow⟩ := returns_of_file hf
  simp only [constant_of_file hf, hreturns, exposed, List.map_nil, List.not_mem_nil, false_or,
    List.mem_cons]
  cases hplan : q.plan tables with
  | one b =>
    have hb := mem_exposedBy (x := argumentName p.name) (hrow b (by simp [hplan, Returns.row?]))
    simp only [Returns.map, Returns.row?, Option.elim_some, List.mem_cons, hb]
  | many b =>
    have hb := mem_exposedBy (x := argumentName p.name) (hrow b (by simp [hplan, Returns.row?]))
    simp only [Returns.map, Returns.row?, Option.elim_some, List.mem_cons, hb]
  | errorOnly | affectedRows => simp [Returns.map]

end Query

/-- The parameters are called as what other bodies name: the package of models, and the rows. -/
def authorPages : Query where
  name := "author_pages"
  parameters := [⟨"models", { name := "text" }, 1⟩, ⟨"rows", { name := "integer" }, 2⟩]
  shape := .rows
  columns := findAuthor.columns
  sql := "SELECT id, books, blog_posts FROM author_pages WHERE name = $1 LIMIT $2"

theorem argument_mem_identifiers_authorPages :
    ∃ f, authorPages.file [authors] { output := "out" } = .ok f ∧
      scan f.renderBody = authorPages.bodyTokens [authors] { output := "out" } f ∧
      ∀ p ∈ authorPages.parameters, argumentName p.name ∉
        identifiers (authorPages.bodyTokens [authors] { output := "out" }
          { f with arguments := [] }) := by
  obtain ⟨f, hf⟩ : ∃ f, authorPages.file [authors] { output := "out" } = .ok f :=
    (Query.exists_file_iff (b := .synthesized) (by decide +kernel)).mpr
      ⟨_, Query.row_synthesized_eq_ok_iff.mpr ⟨by decide +kernel, rfl⟩⟩
  obtain ⟨-, hscan, harguments⟩ := Query.argument_mem_identifiers_iff hf
  have hplain : authorPages.Plain :=
    ⟨by decide +kernel, by decide +kernel, by decide +kernel⟩
  refine ⟨f, hf, hscan hplain (by decide +kernel) (by decide +kernel), fun p hp => ?_⟩
  rw [(harguments p hp).2]
  revert p
  decide +kernel

/-- A parameter that is called as the statement of its query. -/
def verifyEmail : Query where
  name := "Email"
  parameters := [⟨"email_s_q_l", { name := "text" }, 1⟩]
  shape := .exec
  sql := "UPDATE users SET verified = true WHERE email = $1"

/-- The argument is run as the statement, which the constant of its name holds. -/
theorem verifyEmail_captures :
    ∃ f, verifyEmail.file [] { output := "out" } = .ok f ∧
      f.signature = "ctx context.Context, db Querier, emailSQL string" ∧
      f.constant = "emailSQL" ∧ f.Runs ["ctx", "emailSQL", "emailSQL"] ∧
      "emailSQL" ∈ identifiers (verifyEmail.bodyTokens [] { output := "out" }
        { f with arguments := [] }) := by
  obtain ⟨f, hf⟩ : ∃ f, verifyEmail.file [] { output := "out" } = .ok f := ⟨_, rfl⟩
  have hordered : verifyEmail.orderedParameters = verifyEmail.parameters :=
    Query.orderedParameters_eq (.refl _) (by decide)
  have hconstant : f.constant = "emailSQL" := by
    rw [Query.constant_of_file hf]
    decide +kernel
  have harguments : f.arguments.map (·.name) = ["emailSQL"] := by
    rw [Query.arguments_of_file hf, hordered]
    decide +kernel
  have hruns := f.runs_callArguments
  rw [hconstant, harguments] at hruns
  refine ⟨f, hf, ?_, hconstant, hruns, ?_⟩
  · rw [f.signature_eq, Query.signatureEntries_of_file hf, hordered]
    decide +kernel
  · refine List.mem_filter.mpr ⟨?_, by decide +kernel⟩
    rw [Query.bodyTokens, QueryFile.mem_freeWords_body (by decide +kernel) (by decide)]
    exact .inl hconstant.symm

end SchemaGo
