import Mathlib
import SchemaGo.Proofs.Go.Functions
import SchemaGo.Query.Render

/-!
The function of a query is read back: its lexemes, with the text that they spell.
-/

namespace SchemaGo

open Go Grammar Lexeme

/-! ### Lines -/

section Lines

variable (n : ℕ) (xs ys : List (List Lexeme))

lemma spell_lineLexemes_append :
    spell (lineLexemes n (xs ++ ys)) = spell (lineLexemes n xs) ++ spell (lineLexemes n ys) := by
  rw [lineLexemes, List.flatMap_append, spell_append]
  rfl

lemma spell_lineLexemes_cons (x : List Lexeme) :
    spell (lineLexemes n (x :: xs)) = QueryFile.line n (spell x) ++ spell (lineLexemes n xs) := by
  rw [lineLexemes, List.flatMap_cons, spell_append, spell_append, spell_append, spell_indent,
    ← String.append_assoc]
  rfl

@[simp] lemma spell_lineLexemes_nil : spell (lineLexemes n []) = "" := rfl

/-- The lines of a statement with a block. -/
lemma line_withBlock (ts : List Lexeme) :
    QueryFile.line n (spell (withBlock n ts xs)) =
      QueryFile.line n (spell ts ++ " \x7b") ++ spell (lineLexemes (n + 1) xs) ++
        QueryFile.line n "\x7d" := by
  apply String.toList_injective
  have hi := congrArg String.toList (spell_indent n)
  rw [toList_spell_eq_chars] at hi
  simp [QueryFile.line, withBlock, blockLexemes, toList_spell_eq_chars, hi, Lexeme.text, tabs]

end Lines

/-! ### Types -/

namespace Go.ColumnType

/-- The lexemes of the type as another package writes it. -/
def qualifiedLexemes (models : String) (t : ColumnType) : List Lexeme :=
  t.marked (if t.isUser then .word models :: .mark '.' :: t.base.lexemes else t.base.lexemes)

lemma spell_qualifiedLexemes (models : String) (t : ColumnType) :
    spell (t.qualifiedLexemes models) = t.qualified models := by
  rw [qualifiedLexemes, spell_marked, qualified, String.append_assoc]
  split
  · rw [spell_cons, spell_cons, t.base.spell_lexemes, String.append_assoc]
    rfl
  · rw [t.base.spell_lexemes, String.empty_append]

lemma isType_qualifiedLexemes {models : String} (hm : isTypeName models = true) {t : ColumnType}
    (ht : t.base.legal = true) : IsType (t.qualifiedLexemes models) := by
  rcases hb : t.base with s | _ | _ | _ | s
  case user =>
    have hs : isWord s = true := by
      rw [hb] at ht
      exact (Bool.and_eq_true_iff.mp ht).1
    have hk : models ∉ typeKeywords := by simpa using (Bool.and_eq_true_iff.mp hm).2
    have h := (isType_qualified hm hs).marked ((runsAsType_qualified hk s).mono (by omega))
      t.pointer t.slice
    simpa [qualifiedLexemes, isUser, hb, BaseType.lexemes, marked] using h
  all_goals
    have h := isType_lexemes ht
    simpa [qualifiedLexemes, isUser, hb, lexemes] using h

end Go.ColumnType

/-- The lexemes of the type of a row: a name, or the name of a package and what is behind it. -/
inductive IsRowType : List Lexeme → Prop
  | name {w : String} : isTypeName w = true → IsRowType [.word w]
  | qualified {p w : String} : isTypeName p = true → isWord w = true →
      IsRowType [.word p, .mark '.', .word w]

namespace IsRowType

variable {ts : List Lexeme}

lemma isType (h : IsRowType ts) : IsType ts := by
  cases h with
  | name hw => exact isType_name hw
  | qualified hp hw => exact isType_qualified hp hw

lemma runs (h : IsRowType ts) : RunsAsType 1 ts := by
  cases h with
  | name hw => exact runsAsType_name (by simpa using (Bool.and_eq_true_iff.mp hw).2)
  | qualified hp hw => exact runsAsType_qualified (by simpa using (Bool.and_eq_true_iff.mp hp).2) _

lemma isParameter (h : IsRowType ts) : IsParameter ts := by
  cases h with
  | name hw => exact isParameter_name hw
  | qualified hp hw => exact isParameter_qualified hp hw

lemma isType_slice (h : IsRowType ts) : IsType (.mark '[' :: .mark ']' :: ts) :=
  h.isType.marked (h.runs.mono (by omega)) false true

end IsRowType

/-! ### What is read -/

namespace Target

def lexemes : Target → List Lexeme
  | field n => [.mark '&', .word "i", .mark '.', .word n]
  | decoded b _ => [.mark '&', .word b]

/-- The names are names of the language. -/
def legal : Target → Bool
  | field n => isWord n
  | decoded b n => isTypeName b && isWord n

lemma spell_lexemes (t : Target) : spell t.lexemes = t.address := by
  cases t <;> simp [lexemes, address, spell_cons, Lexeme.text, ← String.append_assoc]

lemma isArgument {t : Target} (h : t.legal = true) : IsArgument t.lexemes := by
  cases t with
  | field n => exact isArgument_field h
  | decoded b n => exact isArgument_address (Bool.and_eq_true_iff.mp h).1

end Target

namespace QueryFile

/-! ### Arguments -/

def words (xs : List String) : List (List Lexeme) := xs.map fun x => [.word x]

lemma spell_words (xs : List String) : spell (commas (words xs)) = commaSeparated xs := by
  rw [spell_commas, words, List.map_map]
  have h : spell ∘ (fun x : String => [Lexeme.word x]) = id := by
    funext x
    simp [spell_cons, Lexeme.text]
  rw [h, List.map_id, commaSeparated]

lemma isArgument_words {xs : List String} (h : ∀ x ∈ xs, isTypeName x = true) :
    ∀ ts ∈ words xs, IsArgument ts := by
  intro ts hts
  obtain ⟨x, hx, rfl⟩ := List.mem_map.mp hts
  exact isArgument_word (h x hx)

/-- What the statement is run with. -/
def callLexemes (f : QueryFile) : List (List Lexeme) :=
  words ("ctx" :: f.constant :: f.arguments.map (·.name))

def scanLexemes (r : Row) : List (List Lexeme) := r.targets.map (·.lexemes)

lemma spell_scanLexemes (r : Row) : spell (commas (scanLexemes r)) = scanArguments r := by
  rw [spell_commas, scanLexemes, List.map_map, scanArguments, commaSeparated]
  congr 2
  funext t
  exact t.spell_lexemes

/-! ### The lines of a body -/

def bytesLexemes : List Lexeme := BaseType.bytes.lexemes

def declareLexemes (r : Row) : List (List Lexeme) :=
  r.targets.filterMap fun
    | .field _ => none
    | .decoded b _ => some (varLexemes b bytesLexemes)

/-- The statement `inner` where a condition holds. -/
def guardLexemes (n : ℕ) (condition inner : List Lexeme) : List Lexeme :=
  withBlock n (.word "if" :: .blank " " :: condition) [inner]

/-- What decodes the bytes `b` into a field, at a depth of `n`. -/
def decodeOne (n : ℕ) (failure : List Lexeme) (b field : String) : List Lexeme :=
  guardLexemes n (nonempty b) (guardLexemes (n + 1)
    (failedCall "json" "Unmarshal" [[.word b], (Target.field field).lexemes]) failure)

def decodeLexemes (n : ℕ) (failure : List Lexeme) (r : Row) : List (List Lexeme) :=
  r.targets.filterMap fun
    | .field _ => none
    | .decoded b field => some (decodeOne n failure b field)

/-- What reads one row of the type with the lexemes `ts`. -/
def readRow (n : ℕ) (ts failure : List Lexeme) (cursor : String) (r : Row) : List (List Lexeme) :=
  varLexemes "i" ts :: declareLexemes r ++
    guardLexemes n (failedCall cursor "Scan" (scanLexemes r)) failure :: decodeLexemes n failure r

/-- The lexemes of the lines of the body, where those of the type of a row are `ts`. -/
def bodyLexemes (f : QueryFile) (ts : List Lexeme) : List (List Lexeme) :=
  match f.returns with
  | .one r =>
    defineLexemes [.word "row"] "db" "QueryOne" f.callLexemes ::
      (readRow 1 ts (returnPair "i" "err") "row" r ++ [returnPair "i" "nil"])
  | .many r =>
    [defineLexemes [.word "rows", .mark ',', .blank " ", .word "err"] "db" "QueryMany"
        f.callLexemes,
      guardLexemes 1 failed (returnPair "nil" "err"),
      closeRows,
      varLexemes "items" (.mark '[' :: .mark ']' :: ts),
      withBlock 1 forRows (readRow 2 ts (returnPair "nil" "err") "rows" r ++ [appendItem]),
      guardLexemes 1 (failedCall "rows" "Err" []) (returnPair "nil" "err"),
      returnPair "items" "nil"]
  | .errorOnly =>
    [defineLexemes [.word "_", .mark ',', .blank " ", .word "err"] "db" "Execute" f.callLexemes,
      returnErr]
  | .affectedRows => [returnLexemes "db" "Execute" f.callLexemes]

/-! ### Their text -/

lemma spell_callLexemes (head : List Lexeme) (xs : List (List Lexeme)) :
    spell (Go.callLexemes head xs) = spell head ++ "(" ++ spell (commas xs) ++ ")" := by
  apply String.toList_injective
  simp [Go.callLexemes, toList_spell_eq_chars, Lexeme.text]

lemma spell_defineLexemes (head : List Lexeme) (w m : String) (xs : List (List Lexeme)) :
    spell (defineLexemes head w m xs) =
      spell head ++ " := " ++ w ++ "." ++ m ++ "(" ++ spell (commas xs) ++ ")" := by
  rw [defineLexemes, spell_callLexemes]
  apply String.toList_injective
  simp [defines, methodLexemes, toList_spell_eq_chars, Lexeme.text]

lemma spell_returnLexemes (w m : String) (xs : List (List Lexeme)) :
    spell (returnLexemes w m xs) =
      "return " ++ w ++ "." ++ m ++ "(" ++ spell (commas xs) ++ ")" := by
  rw [returnLexemes, spell_callLexemes]
  apply String.toList_injective
  simp [methodLexemes, toList_spell_eq_chars, Lexeme.text]

lemma spell_varLexemes (n : String) (ts : List Lexeme) :
    spell (varLexemes n ts) = "var " ++ n ++ " " ++ spell ts := by
  apply String.toList_injective
  simp [varLexemes, toList_spell_eq_chars, Lexeme.text]

lemma spell_failedCall (w m : String) (xs : List (List Lexeme)) :
    spell (failedCall w m xs) =
      "err := " ++ w ++ "." ++ m ++ "(" ++ spell (commas xs) ++ "); err != nil" := by
  rw [failedCall, spell_append, spell_defineLexemes]
  apply String.toList_injective
  simp [failed, toList_spell_eq_chars, Lexeme.text]

lemma spell_if (ts : List Lexeme) : spell (.word "if" :: .blank " " :: ts) = "if " ++ spell ts := by
  apply String.toList_injective
  simp [toList_spell_eq_chars, Lexeme.text]

lemma line_guardLexemes (n : ℕ) (condition inner : List Lexeme) :
    line n (spell (guardLexemes n condition inner)) =
      line n ("if " ++ spell condition ++ " \x7b") ++ line (n + 1) (spell inner) ++
        line n "\x7d" := by
  rw [guardLexemes, line_withBlock, spell_if, spell_lineLexemes_cons, spell_lineLexemes_nil,
    String.append_empty]

lemma spell_declareLexemes (n : ℕ) (r : Row) :
    spell (lineLexemes n (declareLexemes r)) = declareBytes n r := by
  rw [declareLexemes, declareBytes]
  induction r.targets with
  | nil => rfl
  | cons t ts ih =>
    rw [List.map_cons, String.join_cons, ← ih]
    cases t with
    | field => simp
    | decoded b field =>
      have hv : spell (varLexemes b bytesLexemes) = "var " ++ b ++ " []byte" := by
        apply String.toList_injective
        simp [varLexemes, bytesLexemes, BaseType.lexemes, toList_spell_eq_chars, Lexeme.text]
      simp only [List.filterMap_cons]
      rw [spell_lineLexemes_cons, hv]

lemma spell_decodeLexemes (n : ℕ) (failure : List Lexeme) (r : Row) :
    spell (lineLexemes n (decodeLexemes n failure r)) = decodeBytes n (spell failure) r := by
  rw [decodeLexemes, decodeBytes]
  induction r.targets with
  | nil => rfl
  | cons t ts ih =>
    rw [List.map_cons, String.join_cons, ← ih]
    cases t with
    | field => simp
    | decoded b field =>
      have hn : spell (nonempty b) = "len(" ++ b ++ ") > 0" := by
        apply String.toList_injective
        simp [nonempty, Go.callLexemes, commas, toList_spell_eq_chars, Lexeme.text]
      have ha : spell (commas [[.word b], (Target.field field).lexemes]) =
          b ++ ", &i." ++ field := by
        apply String.toList_injective
        simp [commas, Target.lexemes, toList_spell_eq_chars, Lexeme.text]
      simp only [List.filterMap_cons]
      rw [spell_lineLexemes_cons, decodeOne, line_guardLexemes, line_guardLexemes, spell_failedCall,
        hn, ha]
      simp only [String.append_assoc]
      rfl

lemma spell_readRow (n : ℕ) (ts failure : List Lexeme) (cursor : String) (r : Row) :
    spell (lineLexemes n (readRow n ts failure cursor r)) =
      line n ("var i " ++ spell ts) ++ (declareBytes n r ++
        (line n ("if err := " ++ cursor ++ ".Scan(" ++ scanArguments r ++ "); err != nil \x7b") ++
          (line (n + 1) (spell failure) ++
            (line n "\x7d" ++ decodeBytes n (spell failure) r)))) := by
  rw [readRow, spell_lineLexemes_append, spell_lineLexemes_cons, spell_lineLexemes_cons,
    spell_varLexemes, spell_declareLexemes, line_guardLexemes, spell_failedCall,
    spell_scanLexemes, spell_decodeLexemes]
  simp only [String.append_assoc]
  rfl

/-- **The lexemes spell the body.** -/
lemma spell_bodyLexemes (f : QueryFile) {ts : List Lexeme}
    (hts : ∀ r ∈ f.returns.row?, spell ts = r.type) :
    spell (lineLexemes 1 (f.bodyLexemes ts)) = f.renderBody := by
  have hcall : spell (commas f.callLexemes) = f.callArguments := spell_words _
  unfold bodyLexemes renderBody
  cases hr : f.returns with
  | one r =>
    have ht : spell ts = r.type := hts r (by rw [hr]; rfl)
    simp only [spell_lineLexemes_cons, spell_lineLexemes_append, spell_lineLexemes_nil,
      spell_defineLexemes, spell_readRow, hcall, ht, String.append_assoc, String.append_empty]
    rfl
  | many r =>
    have ht : spell ts = r.type := hts r (by rw [hr]; rfl)
    simp only [spell_lineLexemes_cons, spell_lineLexemes_append, spell_lineLexemes_nil,
      line_withBlock, line_guardLexemes, spell_failedCall,
      spell_defineLexemes, spell_readRow, spell_varLexemes, hcall, String.append_assoc,
      String.append_empty]
    have hs : spell (.mark '[' :: .mark ']' :: ts) = "[]" ++ r.type := by
      rw [spell_cons, spell_cons, ht, ← String.append_assoc]
      rfl
    rw [hs, ht]
    rfl
  | errorOnly =>
    simp only [spell_lineLexemes_cons, spell_lineLexemes_nil, spell_defineLexemes, hcall,
      String.append_assoc, String.append_empty]
    rfl
  | affectedRows =>
    simp only [spell_lineLexemes_cons, spell_lineLexemes_nil, spell_returnLexemes, hcall,
      String.append_assoc, String.append_empty]
    rfl

/-! ### The statements of a body -/

lemma isStatement_guard (n : ℕ) {condition inner : List Lexeme} (hc : IsCondition condition)
    (hinner : IsStatement inner) : IsStatement (guardLexemes n condition inner) :=
  isStatement_if n (List.forall_mem_singleton.mpr hinner) hc

section Row

variable {r : Row} (hr : ∀ t ∈ r.targets, t.legal = true) (n : ℕ) {failure : List Lexeme}
  (hfailure : IsStatement failure)

include hr

lemma isStatement_declare : ∀ x ∈ declareLexemes r, IsStatement x := by
  intro x hx
  obtain ⟨t, ht, hx⟩ := List.mem_filterMap.mp hx
  cases t with
  | field => simp at hx
  | decoded b field =>
    obtain ⟨hb, -⟩ := Bool.and_eq_true_iff.mp (hr _ ht)
    obtain rfl := Option.some.inj hx
    exact isStatement_var (Bool.and_eq_true_iff.mp hb).1 (BaseType.isType_lexemes (by rfl)).1

lemma isArgument_scan : ∀ x ∈ scanLexemes r, IsArgument x := by
  intro x hx
  obtain ⟨t, ht, rfl⟩ := List.mem_map.mp hx
  exact Target.isArgument (hr t ht)

include hfailure

lemma isStatement_decode : ∀ x ∈ decodeLexemes n failure r, IsStatement x := by
  intro x hx
  obtain ⟨t, ht, hx⟩ := List.mem_filterMap.mp hx
  cases t with
  | field => simp at hx
  | decoded b field =>
    obtain ⟨hb, hfield⟩ := Bool.and_eq_true_iff.mp (hr _ ht)
    obtain rfl := Option.some.inj hx
    have hargs : ∀ y ∈ [[.word b], (Target.field field).lexemes], IsArgument y := by
      simpa using ⟨isArgument_word hb, Target.isArgument (t := .field field) hfield⟩
    have hc := isCondition_failedCall (w := "json") (m := "Unmarshal") (fun _ _ => rfl)
      (by decide +kernel) hargs
    have hinner := isStatement_guard (n + 1) hc hfailure
    exact isStatement_guard n (isCondition_nonempty hb) hinner

lemma isStatement_readRow {ts : List Lexeme} (hts : IsType ts) {cursor : String}
    (hcursor : cursor = "row" ∨ cursor = "rows") :
    ∀ x ∈ readRow n ts failure cursor r, IsStatement x := by
  have hguard :
      IsStatement (guardLexemes n (failedCall cursor "Scan" (scanLexemes r)) failure) := by
    refine isStatement_guard n (isCondition_failedCall ?_ ?_ (isArgument_scan hr)) hfailure
    · rcases hcursor with rfl | rfl <;> exact fun _ _ => rfl
    · rcases hcursor with rfl | rfl <;> decide +kernel
  rw [readRow, List.forall_mem_append, List.forall_mem_cons, List.forall_mem_cons]
  exact ⟨⟨isStatement_var (by decide +kernel) hts, isStatement_declare hr⟩, hguard,
    isStatement_decode hr n hfailure⟩

end Row

/-- **The lines of the body are statements.** -/
lemma isStatement_body {f : QueryFile} {ts : List Lexeme}
    (hcall : ∀ x ∈ f.callLexemes, IsArgument x)
    (hrow : ∀ r ∈ f.returns.row?, IsRowType ts ∧ ∀ t ∈ r.targets, t.legal = true) :
    ∀ x ∈ f.bodyLexemes ts, IsStatement x := by
  have hfixed : ∀ x ∈ fixedLines, IsStatement x := fun x => isStatement_fixed
  simp only [fixedLines, List.forall_mem_cons] at hfixed
  obtain ⟨hrow', hdone, hnil, hitems, herr, hclose, happend, -⟩ := hfixed
  unfold bodyLexemes
  cases hr : f.returns with
  | one r =>
    obtain ⟨ht, htargets⟩ := hrow r (by rw [hr]; rfl)
    have hread := isStatement_readRow htargets 1 hrow' ht.isType (.inl rfl)
    have hdefine := isStatement_define (w := "db") (m := "QueryOne") (defines_one (.inl rfl))
      (startsSimple_word (.inl rfl) []) (fun _ _ => rfl) (by decide +kernel) hcall
    simp only [List.forall_mem_cons, List.forall_mem_append]
    exact ⟨hdefine, hread, hdone, by simp⟩
  | many r =>
    obtain ⟨ht, htargets⟩ := hrow r (by rw [hr]; rfl)
    have hread := isStatement_readRow htargets 2 hnil ht.isType (.inr rfl)
    have hdefine := isStatement_define (w := "db") (m := "QueryMany") (defines_two (.inr rfl))
      (startsSimple_word (.inr (.inl rfl)) _) (fun _ _ => rfl) (by decide +kernel) hcall
    have hloop := isStatement_for 1 (List.forall_mem_append.mpr
      ⟨hread, List.forall_mem_singleton.mpr happend⟩)
    have hnone : ∀ x ∈ ([] : List (List Lexeme)), IsArgument x := by simp
    have hcheck := isCondition_failedCall (w := "rows") (m := "Err") (fun _ _ => rfl)
      (by decide +kernel) hnone
    simp only [List.forall_mem_cons]
    exact ⟨hdefine, isStatement_guard 1 isCondition_failed hnil, hclose,
      isStatement_var (by decide +kernel) ht.isType_slice, hloop,
      isStatement_guard 1 hcheck hnil, hitems, by simp⟩
  | errorOnly =>
    have hdefine := isStatement_define (w := "db") (m := "Execute") (defines_two (.inl rfl))
      (startsSimple_word (.inr (.inr rfl)) _) (fun _ _ => rfl) (by decide +kernel) hcall
    simp only [List.forall_mem_cons]
    exact ⟨hdefine, herr, by simp⟩
  | affectedRows =>
    have hreturn := isStatement_return (w := "db") (m := "Execute") (fun _ _ => rfl)
      (by decide +kernel) hcall
    simpa using hreturn

end QueryFile

end SchemaGo
