import Mathlib
import SchemaGo.Proofs.Go.CommentRuns
import SchemaGo.Proofs.Go.Pieces
import SchemaGo.Proofs.Go.Reprint

/-!
Printing keeps the comments of a source. The imports are printed as one sorted block, in which an
entry stands once and the comments of a lone import stand line by line; all other comments are
printed as they are, but for white space at the end of a run.
-/

namespace SchemaGo.Go

open Grammar Lexeme Text

variable {s source : String} {ts us : List Lexeme} {ps : List Piece}

/-! ### Where the comments of an outline stand -/

/-- The comments of an outline so far. -/
structure Survey where
  /-- The comments since the last item, but for those on the line on which it ends. -/
  above : List String := []
  /-- The line at hand is the one on which the last item ends. -/
  beside : Bool := false
  /-- The last item is an import declaration. -/
  imports : Bool := false
  /-- There has been an entry in an import declaration. -/
  entries : Bool := false
  /-- The comments above import declarations, since the package clause. -/
  rewritten : List Rewritten := []
  /-- The comments beside an import declaration in front of the first entry. -/
  unplaced : List String := []

namespace Survey

def addItem (v : Survey) : Item → Survey
  | .package => { v with imports := false, rewritten := [], unplaced := [] }
  | .importOne _ =>
    { v with
      imports := true
      entries := true
      rewritten := v.rewritten ++ Rewritten.byLine v.above }
  | .importGroup parts =>
    { v with
      imports := true
      entries := v.entries || parts.any (·.isEntry)
      rewritten := v.rewritten ++ Rewritten.atEnd v.above }
  | .decl _ _ => { v with imports := false }

def step (v : Survey) : Piece → Survey
  | .gap text => { v with beside := v.beside && breaks text == 0 }
  | .comment c =>
    if v.beside then
      if v.imports && !v.entries then { v with unplaced := v.unplaced ++ [c] } else v
    else { v with above := v.above ++ [c] }
  | .item _ i => { v.addItem i with above := [], beside := true }

end Survey

/-- The comments that are not always printed as they are: those above an import declaration and
the last one of the outline. -/
def rewritten (ps : List Piece) : List Rewritten :=
  let v := ps.foldl Survey.step {}
  v.rewritten ++ Rewritten.atEnd v.above

/-- The comments on the line on which an import declaration ends, as long as nothing has been
imported. -/
def unplaced (ps : List Piece) : List String := (ps.foldl Survey.step {}).unplaced

/-! ### How often a text stands in the parts of a file -/

def Decl.occurrences (s : String) (d : Decl) : ℕ :=
  Text.occurrences s d.leading + Text.occurrences s d.body

namespace File

/-- How often a text stands in the parts that are printed, were all entries printed. -/
def occurrences (s : String) (f : File) : ℕ :=
  Text.occurrences s f.header + Text.occurrences s f.packageLine +
    Text.occurrences s f.importLeading + (f.imports.map (·.occurrences s)).sum +
    (f.importTail.map (Text.occurrences s)).sum + (f.decls.map (·.occurrences s)).sum

/-- The entries that are not printed, since they repeat others. -/
def repeatedImports (f : File) : List ImportSpec := f.imports.diff f.sortedImports

variable {f : File}

lemma sum_imports (w : ImportSpec → ℕ) (f : File) :
    (f.imports.map w).sum = (f.sortedImports.map w).sum + (f.repeatedImports.map w).sum := by
  have hsub : f.sortedImports.Subperm f.imports :=
    (dropRepeats_sublist _).subperm.trans (List.mergeSort_perm _ _).subperm
  have hperm := List.subperm_append_diff_self_of_count_le fun x _ => hsub.count_le x
  rw [← (hperm.map w).sum_eq, List.map_append, List.sum_append, repeatedImports]

lemma occurrences_importLine_le (hs : s ≠ "") (text : String) :
    Text.occurrences s text ≤ Text.occurrences s (importLine text) :=
  (occurrences_le_append_right hs "\t" text).trans (occurrences_le_append_left hs _ "\n")

lemma sum_le_join {α : Type} {w : α → ℕ} {p : α → String} (hs : s ≠ "")
    (h : ∀ a, w a ≤ Text.occurrences s (p a)) (as : List α) :
    (as.map w).sum ≤ Text.occurrences s (String.join (as.map p)) := by
  refine le_trans ?_ (sum_occurrences_le_join hs _)
  rw [List.map_map]
  exact List.sum_le_sum fun a _ => h a

/-- An entry of the import block. -/
def entryLines (e : ImportSpec) : String :=
  String.join (e.leading.map importLine) ++ importLine e.text

lemma occurrences_entryLines_le (hs : s ≠ "") (e : ImportSpec) :
    e.occurrences s ≤ Text.occurrences s (entryLines e) := by
  have h₁ := sum_le_join hs (occurrences_importLine_le hs) e.leading
  have h₂ := occurrences_importLine_le hs e.text
  have h₃ := occurrences_append_le hs (String.join (e.leading.map importLine)) (importLine e.text)
  rw [ImportSpec.occurrences, entryLines]
  omega

lemma occurrences_importBlock_le (hs : s ≠ "") (specs : List ImportSpec) (tail : List String) :
    (specs.map (·.occurrences s)).sum + (tail.map (Text.occurrences s)).sum ≤
      Text.occurrences s (importBlock specs tail) := by
  have hspecs : (specs.map (·.occurrences s)).sum ≤
      Text.occurrences s (String.join (specs.map entryLines)) :=
    sum_le_join hs (occurrences_entryLines_le hs) specs
  have htail := sum_le_join hs (occurrences_importLine_le hs) tail
  have h₁ := occurrences_le_append_right hs "import (\n" (String.join (specs.map entryLines))
  have h₂ := occurrences_append_le hs ("import (\n" ++ String.join (specs.map entryLines))
    (String.join (tail.map importLine))
  have h₃ := occurrences_le_append_left hs ("import (\n" ++ String.join (specs.map entryLines) ++
    String.join (tail.map importLine)) ")"
  change _ ≤ Text.occurrences s ("import (\n" ++ String.join (specs.map entryLines) ++
    String.join (tail.map importLine) ++ ")")
  omega

lemma occurrences_renderImports_le (hs : s ≠ "") (f : File) :
    (f.sortedImports.map (·.occurrences s)).sum + (f.importTail.map (Text.occurrences s)).sum ≤
      Text.occurrences s f.renderImports := by
  unfold renderImports
  split
  · next h =>
    split
    · next ht => simp [h, List.isEmpty_iff.mp ht]
    · rw [h]
      exact occurrences_importBlock_le hs [] _
  · next e h =>
    split
    · next ht =>
      simp only [Bool.and_eq_true, List.isEmpty_iff] at ht
      have := occurrences_append_le hs "import " e.text
      simp only [h, ht, ImportSpec.occurrences, List.map_cons, List.map_nil, List.sum_cons,
        List.sum_nil]
      omega
    · rw [h]
      exact occurrences_importBlock_le hs [e] _
  · exact occurrences_importBlock_le hs _ _

lemma occurrences_importSection_le (hs : s ≠ "") (f : File) :
    Text.occurrences s f.importLeading + Text.occurrences s f.renderImports ≤
      Text.occurrences s f.importSection := by
  unfold importSection
  dsimp only
  split
  · next h =>
    simp only [Bool.and_eq_true, String.isEmpty_iff] at h
    simp [h]
  · have h₁ : Text.occurrences s f.importLeading ≤ Text.occurrences s
        ("\n\n" ++ if f.importLeading.isEmpty then "" else f.importLeading ++ "\n") := by
      split
      · next h => simp [String.isEmpty_iff.mp h]
      · exact (occurrences_le_append_left hs _ _).trans (occurrences_le_append_right hs _ _)
    exact (Nat.add_le_add_right h₁ _).trans (occurrences_append_le hs _ _)

lemma occurrences_printDecl_le (hs : s ≠ "") (blank : Bool) (d : Decl) :
    d.occurrences s ≤ Text.occurrences s (printDecl blank d) :=
  (Nat.add_le_add_right (occurrences_le_append_right hs _ _) _).trans (occurrences_append_le hs _ _)

lemma occurrences_printDecls_le (hs : s ≠ "") (ds : List Decl) :
    (ds.map (·.occurrences s)).sum ≤ Text.occurrences s (printDecls ds) := by
  cases ds with
  | nil => simp [printDecls]
  | cons d ds =>
    have h₁ := occurrences_printDecl_le hs true d
    have h₂ : (ds.map (·.occurrences s)).sum ≤
        Text.occurrences s (String.join (ds.map fun d => printDecl d.blankBefore d)) :=
      sum_le_join (w := Decl.occurrences s) (p := fun d => printDecl d.blankBefore d) hs
        (fun d => occurrences_printDecl_le hs d.blankBefore d) ds
    have h₃ := occurrences_append_le hs (printDecl true d)
      (String.join (ds.map fun d => printDecl d.blankBefore d))
    rw [List.map_cons, List.sum_cons, printDecls]
    omega

/-- **What stands in the parts of a file is printed**, but for the entries that repeat others. -/
theorem occurrences_le_print (hs : s ≠ "") (f : File) :
    f.occurrences s + Text.occurrences s f.trailer ≤
      Text.occurrences s f.print + (f.repeatedImports.map (·.occurrences s)).sum := by
  have himports := occurrences_renderImports_le hs f
  have hsection := occurrences_importSection_le hs f
  have hdecls := occurrences_printDecls_le hs f.decls
  have htrailer : Text.occurrences s f.trailer ≤
      Text.occurrences s (if f.trailer.isEmpty then "" else "\n\n" ++ f.trailer) := by
    split
    · next h => simp [String.isEmpty_iff.mp h]
    · exact occurrences_le_append_right hs _ _
  have hsum := sum_imports (·.occurrences s) f
  unfold print
  generalize (if f.trailer.isEmpty then "" else "\n\n" ++ f.trailer) = trailer at *
  have h₁ := occurrences_append_le hs f.header f.packageLine
  have h₂ := occurrences_append_le hs (f.header ++ f.packageLine) f.importSection
  have h₃ := occurrences_append_le hs (f.header ++ f.packageLine ++ f.importSection)
    (printDecls f.decls)
  have h₄ := occurrences_append_le hs
    (f.header ++ f.packageLine ++ f.importSection ++ printDecls f.decls) trailer
  have h₅ := occurrences_le_append_left hs
    (f.header ++ f.packageLine ++ f.importSection ++ printDecls f.decls ++ trailer) "\n"
  rw [occurrences]
  omega

end File

/-! ### What a comment is put to -/

lemma add_le_sum_modify {α : Type} {w : α → ℕ} {g : α → α} {k i : ℕ} {as : List α}
    (hg : ∀ a, w a + k ≤ w (g a)) (hi : i < as.length) :
    (as.map w).sum + k ≤ ((as.modify i g).map w).sum := by
  induction as generalizing i with
  | nil => simp at hi
  | cons a as ih =>
    cases i with
    | zero =>
      have := hg a
      simp only [List.modify_zero_cons, List.map_cons, List.sum_cons]
      omega
    | succ i =>
      have := ih (Nat.lt_of_succ_lt_succ hi)
      simp only [List.modify_succ_cons, List.map_cons, List.sum_cons]
      omega

lemma sum_appendComment_le (hs : s ≠ "") {imports : List ImportSpec} (himports : imports ≠ [])
    (c : String) :
    (imports.map (·.occurrences s)).sum + occurrences s c ≤
      ((appendComment imports c).map (·.occurrences s)).sum := by
  refine add_le_sum_modify (fun e => ?_) ?_
  · have h₁ := occurrences_append_le hs (e.text ++ " ") c
    have h₂ := occurrences_le_append_left hs e.text " "
    simp only [ImportSpec.occurrences]
    omega
  · have := List.length_pos_iff.mpr himports
    omega

lemma appendComment_ne_nil {imports : List ImportSpec} {c : String} :
    appendComment imports c ≠ [] ↔ imports ≠ [] := by
  simp [appendComment, ← List.length_pos_iff]

namespace GroupState

variable {g : GroupState}

def occurrences (s : String) (g : GroupState) : ℕ :=
  (g.imports.map (·.occurrences s)).sum + (g.leading.map (Text.occurrences s)).sum

/-- An entry that ends on the line at hand has been read. -/
def Sound (g : GroupState) : Prop := g.onLine = true → g.imports ≠ []

lemma Sound.step (h : g.Sound) (p : ImportPart) : (g.step p).Sound := by
  cases p with
  | lineBreak => simp [Sound, GroupState.step]
  | comment c =>
    unfold GroupState.step
    dsimp only
    split
    · intro ho
      exact appendComment_ne_nil.mpr (h (Bool.and_eq_true_iff.mp ho).1)
    · intro ho
      exact h (Bool.and_eq_true_iff.mp ho).1
  | entry e => simp [Sound, GroupState.step]

lemma imports_step_ne_nil {p : ImportPart} (h : g.imports ≠ [] ∨ p.isEntry = true) :
    (g.step p).imports ≠ [] := by
  cases p with
  | lineBreak => simpa [ImportPart.isEntry, GroupState.step] using h
  | comment c =>
    have h : g.imports ≠ [] := by simpa [ImportPart.isEntry] using h
    unfold GroupState.step
    dsimp only
    split
    · exact appendComment_ne_nil.mpr h
    · exact h
  | entry e => simp [GroupState.step]

lemma occurrences_step_le (hs : s ≠ "") (h : g.Sound) (p : ImportPart) :
    g.occurrences s + p.occurrences s ≤ (g.step p).occurrences s := by
  cases p with
  | lineBreak => simp [ImportPart.occurrences, occurrences, GroupState.step]
  | comment c =>
    unfold GroupState.step
    dsimp only
    split
    · next hc =>
      have := sum_appendComment_le hs (h (Bool.and_eq_true_iff.mp hc).2) c
      simp only [ImportPart.occurrences, occurrences]
      omega
    · simp [ImportPart.occurrences, occurrences, Nat.add_assoc]
  | entry e =>
    simp [ImportPart.occurrences, occurrences, GroupState.step, ImportSpec.occurrences,
      Nat.add_assoc]

/-- The state of a group holds its parts. -/
lemma occurrences_foldl_le (hs : s ≠ "") (h : g.Sound) (parts : List ImportPart) :
    g.occurrences s + (parts.map (·.occurrences s)).sum ≤ (parts.foldl step g).occurrences s := by
  induction parts generalizing g with
  | nil => simp
  | cons p parts ih =>
    have h₁ := occurrences_step_le hs h p
    have h₂ := ih (h.step p)
    rw [List.map_cons, List.sum_cons, List.foldl_cons]
    omega

lemma imports_foldl_ne_nil {parts : List ImportPart}
    (h : g.imports ≠ [] ∨ parts.any (·.isEntry) = true) : (parts.foldl step g).imports ≠ [] := by
  induction parts generalizing g with
  | nil => simpa using h
  | cons p parts ih =>
    rw [List.any_cons, Bool.or_eq_true] at h
    refine ih ?_
    rcases h with h | h | h
    · exact .inl (imports_step_ne_nil (.inl h))
    · exact .inl (imports_step_ne_nil (.inr h))
    · exact .inr h

end GroupState

/-! ### Along the pieces -/

/-- Comments above the import block are kept, and those above another group stand below them. -/
lemma occurrences_importLeading_le (hs : s ≠ "") (st : ReadState) (parts : List ImportPart) :
    occurrences s st.file.importLeading +
        occurrences s (trimmed trimEnd (st.pending.getD "")) ≤
      occurrences s (st.addImports parts).file.importLeading := by
  unfold ReadState.addImports
  rcases st.pending with _ | p
  · simp [trimmed, trimEnd]
  · have happ := occurrences_append_le hs
      (if st.file.importLeading.isEmpty then "" else st.file.importLeading ++ "\n")
      (trimmed trimEnd p)
    refine le_trans (Nat.add_le_add_right ?_ _) happ
    split
    · next he => simp [String.isEmpty_iff.mp he]
    · exact occurrences_le_append_left hs _ _

/-- Behind the lexemes `ts`, every comment stands in the file or above the next item, unless it has
been rewritten or has no place. -/
def Kept (s : String) (ts : List Lexeme) (f : File) (v : Survey) : Prop :=
  (comments ts).count s + Rewritten.gained s v.rewritten ≤
    f.occurrences s + v.above.count s + Rewritten.lost s v.rewritten +
      v.unplaced.count s + (behindImport ts).count s

/-- The state of the reader, and the survey, behind the lexemes `ts`. -/
structure Routed (ts : List Lexeme) (st : ReadState) (v : Survey) : Prop where
  before : st.before = spell ts
  beside : v.beside = (st.pending.isNone && decide (st.last ≠ .nothing) && breaks st.gap == 0)
  imports : st.last = .imports → v.imports = true
  entries : v.entries = true → st.file.imports ≠ []
  decls : st.last = .decl → st.file.decls ≠ []
  above : Strung v.above (st.pending.getD "")
  slashed : ∀ c ∈ v.above, Slashed c
  kept : st.seenPackage = true → ∀ s ≠ "", Kept s ts st.file v

namespace Routed

variable {st : ReadState} {v : Survey}

lemma start : Routed [] .start {} where
  before := rfl
  beside := rfl
  imports h := by cases h
  entries h := by cases h
  decls h := by cases h
  above := .nil
  slashed := by simp
  kept h := by cases h

lemma breaks_append_beq (a b : String) :
    (breaks (a ++ b) == 0) = (breaks a == 0 && breaks b == 0) := by
  rw [Bool.eq_iff_iff]
  simp [breaks, List.count_append]

lemma count_comments_append (s : String) (ts its : List Lexeme) :
    (comments (ts ++ its)).count s = (comments ts).count s + (comments its).count s := by
  rw [comments_append, List.count_append]

lemma gap (h : Routed ts st v) {u : Lexeme} (hu : ∀ c, u ≠ .comment c) :
    Routed (ts ++ [u]) (st.step (.gap u.text)) (v.step (.gap u.text)) := by
  have hbefore : st.before ++ u.text = spell (ts ++ [u]) := by
    rw [spell_append, spell_cons, spell_nil, h.before, String.append_empty]
  have hkept : st.seenPackage = true → ∀ s ≠ "", Kept s (ts ++ [u]) st.file v := by
    intro hp s hs
    have hkept := h.kept hp s hs
    have hbehind := count_behindImport_append_le s ts [u]
    rw [Kept, count_comments_append, comments_cons_of_ne hu, comments_nil, List.count_nil]
    rw [Kept] at hkept
    omega
  simp only [ReadState.step, ReadState.pass, Survey.step]
  rcases hpending : st.pending with _ | p
  · refine ⟨hbefore, ?_, h.imports, h.entries, h.decls, ?_, h.slashed, hkept⟩
    · simp [h.beside, hpending, breaks_append_beq, Bool.and_assoc]
    · simpa [hpending] using h.above
  · refine ⟨hbefore, ?_, h.imports, h.entries, h.decls, ?_, h.slashed, hkept⟩
    · simp [h.beside, hpending]
    · simpa [hpending] using h.above.gap u.text

/-- A comment that is put to the last item stands in the file, if there is an item to put it to. -/
lemma occurrences_attach_le (h : Routed ts st v) (hs : s ≠ "") (hl : st.last ≠ .nothing)
    (c : String) :
    st.file.occurrences s + (if v.imports && !v.entries then 0 else occurrences s c) ≤
      (st.attach c).file.occurrences s := by
  have hk : (if v.imports && !v.entries then 0 else occurrences s c) ≤ occurrences s c := by
    split <;> omega
  have hmore := occurrences_le_append_right hs st.gap c
  unfold ReadState.attach
  rcases hlast : st.last with _ | _ | _ | _
  · exact absurd hlast hl
  · have := occurrences_append_le hs st.file.packageLine (st.gap ++ c)
    simp only [File.occurrences]
    omega
  · by_cases himports : st.file.imports = []
    · have hentries : v.entries = false := by
        by_contra he
        exact h.entries (Bool.not_eq_false _ ▸ he) himports
      simp [File.occurrences, himports, appendComment, h.imports hlast, hentries]
    · have := sum_appendComment_le hs himports c
      simp only [File.occurrences]
      omega
  · have hlen := List.length_pos_iff.mpr (h.decls hlast)
    have hbody : ∀ d : Decl, d.occurrences s + occurrences s c ≤
        { d with body := d.body ++ (st.gap ++ c) }.occurrences s := by
      intro d
      have := occurrences_append_le hs d.body (st.gap ++ c)
      simp only [Decl.occurrences]
      omega
    have hmodify : st.file.decls.length - 1 < st.file.decls.length := by omega
    have := add_le_sum_modify (w := fun d => d.occurrences s) hbody hmodify
    simp only [File.occurrences]
    omega

lemma attach_imports_ne_nil {c : String} (h : st.file.imports ≠ []) :
    (st.attach c).file.imports ≠ [] := by
  unfold ReadState.attach
  cases st.last with
  | nothing | package | decl => exact h
  | imports => exact appendComment_ne_nil.mpr h

lemma attach_decls_ne_nil {c : String} (h : st.file.decls ≠ []) :
    (st.attach c).file.decls ≠ [] := by
  unfold ReadState.attach
  cases st.last with
  | nothing | package | imports => exact h
  | decl => simpa [← List.length_pos_iff] using h

lemma comment (h : Routed ts st v) {c : String} (hc : Slashed c) :
    Routed (ts ++ [.comment c]) (st.step (.comment c)) (v.step (.comment c)) := by
  have hbefore : st.before ++ c = spell (ts ++ [.comment c]) := by
    rw [spell_append, spell_cons, spell_nil, h.before, String.append_empty]
    rfl
  have hcount : ∀ s : String, (comments (ts ++ [.comment c])).count s =
      (comments ts).count s + [c].count s := fun s => count_comments_append s ts _
  have hbehind := fun s => count_behindImport_append_le s ts [.comment c]
  simp only [ReadState.step, Survey.step, Piece.text]
  by_cases hb : v.beside = true
  · have hcond := h.beside ▸ hb
    rw [if_pos hcond, if_pos hb]
    simp only [Bool.and_eq_true, Option.isNone_iff_eq_none, decide_eq_true_eq] at hcond
    obtain ⟨⟨hpending, hl⟩, -⟩ := hcond
    have hsurvey : (if (v.imports && !v.entries) = true then
          { v with unplaced := v.unplaced ++ [c] } else v) =
        { v with unplaced := v.unplaced ++ if v.imports && !v.entries then [c] else [] } := by
      split <;> simp
    rw [hsurvey]
    refine ⟨hbefore, ?_, h.imports, fun he => attach_imports_ne_nil (h.entries he),
      fun hd => attach_decls_ne_nil (h.decls hd), h.above, h.slashed, fun hp s hs => ?_⟩
    · simp [hb, ReadState.attach, hpending, hl, breaks]
    · have hkept := h.kept hp s hs
      have hfile := h.occurrences_attach_le hs hl c
      have hone := count_le_sum_occurrences hs [c]
      have := hbehind s
      rw [List.map_singleton, List.sum_singleton] at hone
      rw [Kept] at hkept ⊢
      rw [hcount]
      dsimp only
      split at hfile
      · next hu =>
        rw [if_pos hu, List.count_append]
        omega
      · next hu =>
        rw [if_neg hu, List.append_nil]
        omega
  · have hcond := h.beside ▸ hb
    rw [if_neg hcond, if_neg hb]
    refine ⟨hbefore, ?_, h.imports, h.entries, h.decls, h.above.comment c, ?_, fun hp s hs => ?_⟩
    · simpa using hb
    · simpa [or_imp, forall_and] using ⟨h.slashed, hc⟩
    · have hkept := h.kept hp s hs
      have := hbehind s
      rw [Kept] at hkept ⊢
      rw [hcount, List.count_append]
      dsimp only
      omega

section

variable {inner : Inner} {its : List Lexeme} {last : Bool}

/-- All that stands before the package clause is printed, but for white space. -/
lemma kept_package (h : Routed ts st v) (hts : ∀ c ∈ comments ts, Slashed c) (hs : s ≠ "")
    (its : List Lexeme) :
    Kept s (ts ++ its) (st.addPackage (spell its)).file
      { v.addItem .package with above := [], beside := true } := by
  have hheader := count_comments_le_trimStart hs hts
  have hline := count_comments_le hs its
  rw [← h.before] at hheader
  rw [Kept, count_comments_append]
  simp only [ReadState.addPackage, Survey.addItem, File.occurrences, Rewritten.gained_nil]
  omega

lemma kept_importOne {e : Import} (h : Routed ts st v) (hp : st.seenPackage = true)
    (hs : s ≠ "") (hi : Go.item inner (its ++ us) = some ((.importOne e, last), us)) :
    Kept s (ts ++ its) (st.addImport e).file
      { v.addItem (.importOne e) with above := [], beside := true } := by
  have hkept := h.kept hp s hs
  have hlines := h.above.gained_le_commentLines hs
  have hentry := count_comments_importOne hs hi
  have hbehind := count_behindImport_append_le s ts its
  have hleading : (st.pending.map (ReadState.commentLines ∘ trimmed trimEnd)).getD [] =
      ReadState.commentLines (trimmed trimEnd (st.pending.getD "")) := by
    have hempty : ReadState.commentLines (trimmed trimEnd "") = [] := by decide
    rcases st.pending with _ | p
    · exact hempty.symm
    · simp only [Option.map_some, Option.getD_some, Function.comp_apply]
  rw [Kept] at hkept ⊢
  rw [count_comments_append]
  simp only [ReadState.addImport, hleading, Survey.addItem, File.occurrences,
    ImportSpec.occurrences, Rewritten.gained_append, Rewritten.lost_append,
    Rewritten.lost_byLine, List.map_append, List.sum_append, List.map_singleton,
    List.sum_singleton, List.count_nil] at hkept ⊢
  omega

lemma kept_importGroup {parts : List ImportPart} (h : Routed ts st v)
    (hp : st.seenPackage = true) (hs : s ≠ "")
    (hi : Go.item inner (its ++ us) = some ((.importGroup parts, last), us)) :
    Kept s (ts ++ its) (st.addImports parts).file
      { v.addItem (.importGroup parts) with above := [], beside := true } := by
  have hsound : GroupState.Sound ⟨st.file.imports, [], false⟩ := by simp [GroupState.Sound]
  have hkept := h.kept hp s hs
  have hrun := h.above.kept_trimEnd hs h.slashed
  have hentry := count_comments_importGroup hs hi
  have hparts := GroupState.occurrences_foldl_le hs hsound parts
  have hleading := occurrences_importLeading_le hs st parts
  have hbehind := count_behindImport_append_le s ts its
  rw [Kept] at hkept ⊢
  rw [count_comments_append]
  simp only [ReadState.addImports, Survey.addItem, File.occurrences, GroupState.occurrences,
    Rewritten.gained_append, Rewritten.lost_append, List.map_append, List.sum_append,
    List.count_nil, List.map_nil, List.sum_nil] at hkept hparts hleading ⊢
  omega

lemma kept_decl (h : Routed ts st v) (hp : st.seenPackage = true) (hs : s ≠ "")
    (its : List Lexeme) (shape : Shape) (qualifiers : List String) :
    Kept s (ts ++ its) (st.addDecl (spell its) shape qualifiers).file
      { v.addItem (.decl shape qualifiers) with above := [], beside := true } := by
  have hkept := h.kept hp s hs
  have habove := h.above.count_le hs
  have hbody := count_comments_le hs its
  have hbehind := count_behindImport_append_le s ts its
  rw [Kept] at hkept ⊢
  rw [count_comments_append]
  simp only [ReadState.addDecl, Survey.addItem, File.occurrences, Decl.occurrences,
    List.map_append, List.sum_append, List.map_singleton, List.sum_singleton,
    List.count_nil] at hkept ⊢
  omega

lemma item {i : Item} (h : Routed ts st v) (hts : ∀ c ∈ comments ts, Slashed c)
    (hi : Go.item inner (its ++ us) = some ((i, last), us)) :
    Routed (ts ++ its) (st.step (.item (spell its) i)) (v.step (.item (spell its) i)) := by
  have hbefore : st.before ++ spell its = spell (ts ++ its) := by rw [spell_append, h.before]
  have hslashed : ∀ c ∈ ([] : List String), Slashed c := by simp
  cases i with
  | package =>
    exact ⟨hbefore, rfl, (by rintro ⟨⟩), h.entries, (by rintro ⟨⟩), .nil, hslashed, fun _ s hs =>
      h.kept_package hts hs its⟩
  | importOne e =>
    refine ⟨hbefore, rfl, fun _ => rfl, fun _ => ?_, (by rintro ⟨⟩), .nil, hslashed, fun hp s hs =>
      h.kept_importOne hp hs hi⟩
    simp [ReadState.step, ReadState.addItem, ReadState.addImport]
  | importGroup parts =>
    refine ⟨hbefore, rfl, fun _ => rfl, fun he => ?_, (by rintro ⟨⟩), .nil, hslashed, fun hp s hs =>
      h.kept_importGroup hp hs hi⟩
    refine GroupState.imports_foldl_ne_nil ?_
    rcases Bool.or_eq_true_iff.mp he with he | he
    · exact .inl (h.entries he)
    · exact .inr he
  | decl shape qualifiers =>
    refine ⟨hbefore, rfl, (by rintro ⟨⟩), h.entries, fun _ => ?_, .nil, hslashed, fun hp s hs =>
      h.kept_decl hp hs its shape qualifiers⟩
    simp [ReadState.step, ReadState.addItem, ReadState.addDecl]

end

/-- **No comment is lost along the pieces of an outline.** -/
lemma foldl {inner : Inner} (hps : Pieces inner us ps) (hc : ∀ c ∈ comments (ts ++ us), Slashed c)
    (h : Routed ts st v) :
    Routed (ts ++ us) (ps.foldl ReadState.step st) (ps.foldl Survey.step v) := by
  induction hps generalizing ts st v with
  | nil => simpa using h
  | @trivia u us ps hu _ ih =>
    rw [List.append_cons] at hc ⊢
    refine ih hc ?_
    cases u with
    | comment c => exact h.comment (hc c (by simp [comments]))
    | blank b => exact h.gap (by simp)
    | newline => exact h.gap (by simp)
    | word _ | number _ | string _ | rune _ | mark _ => simp [isTrivia] at hu
  | @terminator u us ps hu _ ih =>
    rw [List.append_cons] at hc ⊢
    refine ih hc ?_
    cases u with
    | mark c => exact h.gap (by simp)
    | word _ | number _ | string _ | rune _ | blank _ | comment _ | newline =>
      simp [isTerminator] at hu
  | @item its us i last ps hi _ ih =>
    rw [← List.append_assoc] at hc ⊢
    exact ih hc (h.item (fun c hm => hc c (by simp [hm])) hi)

end Routed

/-- **Printing keeps the comments of a source.** Each is printed as often as it stands in the
source, but for those of entries that repeat others. A comment above a lone import is printed line
by line, and the last one above an import group or at the end is trimmed at its end. Nothing is
said of comments between the word `import` and what it imports, nor of those beside an import
declaration in front of the first entry. -/
theorem count_comments_le_print {f : File} (h : File.read source = .ok f) :
    ∃ ps, outline source = some ps ∧ ∀ s ≠ "",
      (comments (scan source)).count s + Rewritten.gained s (rewritten ps) ≤
        occurrences s f.print + (f.repeatedImports.map (·.occurrences s)).sum +
          Rewritten.lost s (rewritten ps) +
          (unplaced ps ++ behindImport (scan source)).count s := by
  unfold File.read at h
  rcases ho : outline source with _ | ps <;> simp only [ho] at h
  · cases h
  dsimp only [File.ofPieces] at h
  split at h
  case isFalse => cases h
  next hp =>
  cases h
  refine ⟨ps, rfl, fun s hs => ?_⟩
  have hrun : Routed ([] ++ scan source) (ps.foldl ReadState.step .start)
      (ps.foldl Survey.step {}) :=
    Routed.start.foldl (pieces_of_outline ho) fun c hc => slashed_of_mem_scan hc
  rw [List.nil_append] at hrun
  have hkept := hrun.kept hp s hs
  have hrest := hrun.above.kept_trimEnd hs hrun.slashed
  obtain ⟨st, hst⟩ : ∃ st, st = ps.foldl ReadState.step .start := ⟨_, rfl⟩
  rw [← hst] at hkept hrest ⊢
  rw [Kept] at hkept
  have htrailer : occurrences s (trimmed trimEnd (st.pending.getD "")) ≤
      occurrences s ((st.pending.map (trimmed trimEnd)).getD st.file.trailer) := by
    rcases st.pending with _ | p
    · simp [trimmed, trimEnd]
    · exact le_rfl
  have hprint := File.occurrences_le_print hs
    { st.file with trailer := (st.pending.map (trimmed trimEnd)).getD st.file.trailer }
  change st.file.occurrences s + _ ≤ _ at hprint
  rw [rewritten, unplaced, Rewritten.gained_append, Rewritten.lost_append, List.count_append]
  dsimp only at hprint
  omega

/-- A lone import that repeats another one, and has a comment behind it. -/
def repeatedImport : String :=
  "package models\n\n// notes  \nimport \"fmt\"\nimport \"fmt\" // again\n"

/-- The file that is read from `repeatedImport`. -/
def repeatedImportFile : File :=
  { File.empty "models" with imports := [
    { leading := ["// notes"], text := "\"fmt\"", name? := none, path := "fmt" },
    { leading := [], text := "\"fmt\" // again", name? := none, path := "fmt" }] }

lemma read_repeatedImport : File.read repeatedImport = .ok repeatedImportFile := by decide

/-- Of the two imports the first is printed, with the comment above it. -/
theorem count_comments_le_print_repeatedImport :
    File.read repeatedImport = .ok repeatedImportFile ∧
      ∃ ps, outline repeatedImport = some ps ∧ ∀ s ≠ "",
        (comments (scan repeatedImport)).count s + Rewritten.gained s (rewritten ps) ≤
          occurrences s repeatedImportFile.print +
            (repeatedImportFile.repeatedImports.map (·.occurrences s)).sum +
            Rewritten.lost s (rewritten ps) +
            (unplaced ps ++ behindImport (scan repeatedImport)).count s :=
  ⟨read_repeatedImport, count_comments_le_print read_repeatedImport⟩

/-- The comment of an entry that repeats another one is not printed. -/
theorem comment_of_repeatedImport_not_printed :
    File.read repeatedImport = .ok repeatedImportFile ∧
      (comments (scan repeatedImport)).count "// again" = 1 ∧
      occurrences "// again" repeatedImportFile.print = 0 := by
  have hsorted : repeatedImportFile.sortedImports =
      [{ leading := ["// notes"], text := "\"fmt\"", name? := none, path := "fmt" }] := by
    rw [File.sortedImports, List.mergeSort_of_pairwise (by decide)]
    decide
  have hprint : repeatedImportFile.print =
      "package models\n\nimport (\n\t// notes\n\t\"fmt\"\n)\n" := by
    have hrender : repeatedImportFile.renderImports =
        "import (\n\t// notes\n\t\"fmt\"\n)" := by
      simp only [File.renderImports, hsorted]
      decide
    simp only [File.print, File.importSection, hrender]
    decide
  have hnone : occurrences "// again"
      "package models\n\nimport (\n\t// notes\n\t\"fmt\"\n)\n" = 0 := by decide
  exact ⟨read_repeatedImport, by decide, hprint ▸ hnone⟩

end SchemaGo.Go
