import Mathlib
import SchemaGo.Proofs.Go.ImportOrder
import SchemaGo.Proofs.Go.ImportSections

/-!
Printing and reading. A file is tidy if each of its parts is read on its own as what it stands
for in the file; the print of a tidy file is read back as that file.
-/

namespace SchemaGo.Go

open Lexeme

variable {f g : File} {last : LastItem}

/-! ### Tidy files -/

/-- Lines of comments, with nothing behind the last. -/
def IsComments (s : String) : Prop :=
  (∃ ts, spell ts = s ∧ Above (· == '\n') ts) ∧ trimmed Text.trimEnd s = s

/-- In front of a package clause the text is read as white space and comments. -/
def HeaderReads (header : String) : Prop :=
  trimmed Text.trimStart header = header ∧
    ∃ ts, spell ts = header ∧ (∀ t ∈ ts, isTrivia t = true) ∧
      ∀ cs, scan (String.ofList (header.toList ++ 'p' :: cs)) = ts ++ scanAll ('p' :: cs)

structure Decl.Tidy (d : Decl) : Prop where
  leading : ∃ ts, spell ts = d.leading ∧ Above (fun c => !Text.isBlank c) ts
  body : ∃ qualifiers, ReadsAs d.body d.shape qualifiers ∧
    (d.managed = false → d.qualifiers = qualifiers.eraseDups)

structure File.Tidy (f : File) : Prop where
  header : HeaderReads f.header
  packageLine : PackageReads f.packageLine
  importLeading : IsComments f.importLeading
  /-- Comments stand above a block only where there is one. -/
  block : f.importLeading = "" ∨ f.imports ≠ [] ∨ f.importTail ≠ []
  imports : ∀ s ∈ f.imports, s.Tidy
  importTail : ∀ l ∈ f.importTail, IsComment l
  decls : ∀ d ∈ f.decls, d.Tidy
  trailer : IsComments f.trailer

/-! ### Lines of a print -/

/-- A declaration in its place, up to the end of its line. -/
def declLines (blank : Bool) (d : Decl) : String :=
  (if blank then "\n" else "") ++ d.leading ++ d.body ++ "\n"

/-- The import block in its place. -/
def importLines (f : File) : String :=
  if f.importLeading.isEmpty && f.renderImports.isEmpty then ""
  else
    "\n" ++ (if f.importLeading.isEmpty then "" else f.importLeading ++ "\n") ++
      f.renderImports ++ "\n"

def trailerLines (f : File) : String := if f.trailer.isEmpty then "" else "\n" ++ f.trailer ++ "\n"

/-- The declarations, the first behind a blank line. -/
def allDeclLines : List Decl → String
  | [] => ""
  | d :: ds => declLines true d ++ String.join (ds.map fun d => declLines d.blankBefore d)

lemma printDecl_newline (blank : Bool) (d : Decl) :
    File.printDecl blank d ++ "\n" = "\n" ++ declLines blank d := by
  apply String.toList_injective
  cases blank <;> simp [File.printDecl, declLines]

lemma join_printDecl_newline (ds : List Decl) :
    String.join (ds.map fun d => File.printDecl d.blankBefore d) ++ "\n" =
      "\n" ++ String.join (ds.map fun d => declLines d.blankBefore d) := by
  induction ds with
  | nil => rfl
  | cons d ds ih =>
    rw [List.map_cons, List.map_cons, String.join_cons, String.join_cons, String.append_assoc, ih,
      ← String.append_assoc, printDecl_newline, String.append_assoc]

lemma printDecls_newline (ds : List Decl) :
    File.printDecls ds ++ "\n" = "\n" ++ allDeclLines ds := by
  cases ds with
  | nil => rfl
  | cons d ds =>
    rw [File.printDecls, allDeclLines, String.append_assoc, join_printDecl_newline,
      ← String.append_assoc, printDecl_newline, String.append_assoc]

/-- A print is made of whole lines. -/
lemma print_eq_lines (f : File) :
    f.print = f.header ++ (f.packageLine ++ "\n" ++
      (importLines f ++ (allDeclLines f.decls ++ trailerLines f))) := by
  have ht : (if f.trailer.isEmpty then "" else "\n\n" ++ f.trailer) ++ "\n" =
      "\n" ++ trailerLines f := by
    apply String.toList_injective
    unfold trailerLines
    split <;> simp
  have hi : f.importSection ++ "\n" = "\n" ++ importLines f := by
    apply String.toList_injective
    unfold File.importSection importLines
    simp only
    split
    · simp
    · simp only [String.toList_append, List.append_assoc]
      rfl
  calc f.print
      = f.header ++ (f.packageLine ++ (f.importSection ++ (File.printDecls f.decls ++
          ((if f.trailer.isEmpty then "" else "\n\n" ++ f.trailer) ++ "\n")))) := by
        simp only [File.print, String.append_assoc]
    _ = f.header ++ (f.packageLine ++ (f.importSection ++
          ((File.printDecls f.decls ++ "\n") ++ trailerLines f))) := by
        rw [ht]
        simp only [String.append_assoc]
    _ = f.header ++ (f.packageLine ++ ((f.importSection ++ "\n") ++
          (allDeclLines f.decls ++ trailerLines f))) := by
        rw [printDecls_newline]
        simp only [String.append_assoc]
    _ = _ := by
        rw [hi]
        simp only [String.append_assoc]

/-! ### Declarations -/

/-- What a declaration of a file is after printing and reading. -/
structure Decl.ReadBack (d d' : Decl) : Prop where
  leading : d'.leading = d.leading
  body : d'.body = d.body
  shape : d'.shape = d.shape
  managed : d'.managed = false
  qualifiers : d.managed = false → d'.qualifiers = d.qualifiers
  tidy : d'.Tidy

lemma section_declLines (f : File) (last : LastItem) {d : Decl} (hd : d.Tidy) (blank : Bool) :
    ∃ d', d.ReadBack d' ∧ d'.blankBefore = blank ∧
      Section (declLines blank d) (At f last "\n")
        (At { f with decls := f.decls ++ [d'] } .decl "\n") := by
  obtain ⟨above, hs, ha⟩ := hd.leading
  obtain ⟨qualifiers, hb, hq⟩ := hd.body
  refine ⟨⟨d.leading, d.body, blank, d.shape, qualifiers.eraseDups, false⟩,
    ⟨rfl, rfl, rfl, rfl, fun h => (hq h).symm, hd.leading, qualifiers, hb, fun _ => rfl⟩, rfl, ?_⟩
  cases blank with
  | false =>
    have hone : breaks "\n" = 1 := by decide
    have h := section_decl f last "\n" ha hb (by omega)
    rw [hs] at h
    simpa [declLines, hone] using h
  | true =>
    have h := section_blankLine.append (section_decl f last "\n\n" ha hb (by decide))
    rw [hs, ← String.append_assoc, ← String.append_assoc] at h
    exact h

/-- The declarations of a print: all, in order, with the blank lines between them. -/
structure DeclsReadBack (ds ds' : List Decl) : Prop where
  decls : List.Forall₂ Decl.ReadBack ds ds'
  blanks : ds'.tail.map (·.blankBefore) = ds.tail.map (·.blankBefore)

lemma section_join_declLines (f : File) (last : LastItem) {ds : List Decl}
    (hds : ∀ d ∈ ds, d.Tidy) :
    ∃ ds' last', List.Forall₂ Decl.ReadBack ds ds' ∧
      ds'.map (·.blankBefore) = ds.map (·.blankBefore) ∧
      Section (String.join (ds.map fun d => declLines d.blankBefore d)) (At f last "\n")
        (At { f with decls := f.decls ++ ds' } last' "\n") := by
  induction ds generalizing f last with
  | nil => exact ⟨[], last, .nil, rfl, by simpa using Section.refl _⟩
  | cons d ds ih =>
    obtain ⟨d', hd, hblank, h₁⟩ := section_declLines f last (hds d (by simp))
      d.blankBefore
    obtain ⟨ds', last', hds', hblanks, h₂⟩ := ih { f with decls := f.decls ++ [d'] } .decl
      fun e he => hds e (by simp [he])
    refine ⟨d' :: ds', last', .cons hd hds', by simp [hblank, hblanks], ?_⟩
    rw [List.map_cons, String.join_cons]
    simpa using h₁.append h₂

lemma section_allDeclLines (f : File) (last : LastItem) {ds : List Decl} (hds : ∀ d ∈ ds, d.Tidy) :
    ∃ ds' last', DeclsReadBack ds ds' ∧
      Section (allDeclLines ds) (At f last "\n")
        (At { f with decls := f.decls ++ ds' } last' "\n") := by
  cases ds with
  | nil => exact ⟨[], last, ⟨.nil, rfl⟩, by simpa [allDeclLines] using Section.refl _⟩
  | cons d ds =>
    obtain ⟨d', hd, -, h₁⟩ := section_declLines f last (hds d (by simp)) true
    have hrest : ∀ e ∈ ds, e.Tidy := fun e he => hds e (by simp [he])
    obtain ⟨ds', last', hds', hblanks, h₂⟩ :=
      section_join_declLines { f with decls := f.decls ++ [d'] } .decl hrest
    refine ⟨d' :: ds', last', ⟨.cons hd hds', hblanks⟩, ?_⟩
    simpa [allDeclLines] using h₁.append h₂

/-! ### Imports -/

/-- The print has comments above an import that stands alone, so they are read as comments of
the import. -/
def File.MovesComments (f : File) : Prop :=
  f.importLeading ≠ "" ∧ f.importTail = [] ∧ ∃ s, f.sortedImports = [s] ∧ s.leading = []

lemma trimmed_trimEnd_newline (s : String) :
    trimmed Text.trimEnd (s ++ "\n") = trimmed Text.trimEnd s := by
  have hb : Text.isBlank '\n' = true := by rfl
  simp [trimmed, Text.trimEnd, hb]

/-- Comments end where an item begins on the next line. -/
lemma Above.line {ts : List Lexeme} (ha : Above (· == '\n') ts) (hne : ts ≠ []) :
    Above (fun c => !Text.isBlank c) (ts ++ [.newline]) where
  trivia t ht := by
    rcases List.mem_append.mp ht with ht | ht
    · exact ha.trivia t ht
    · obtain rfl := List.mem_singleton.mp ht
      rfl
  first t ht := by
    obtain ⟨u, us, rfl⟩ := List.exists_cons_of_ne_nil hne
    exact ha.first t ht
  reads c cs _ := readsAll_append.mpr ⟨ha.reads '\n' _ rfl, reads_newline _, trivial⟩

lemma above_nil (stop : Char → Bool) : Above stop [] := ⟨by simp, by simp, fun _ _ _ => trivial⟩

lemma isComments_empty : IsComments "" := ⟨⟨[], rfl, above_nil _⟩, rfl⟩

/-- The comments above a block, with the end of their last line. -/
lemma IsComments.above {s : String} (hs : IsComments s) :
    ∃ ts, Above (fun c => !Text.isBlank c) ts ∧
      spell ts = (if s.isEmpty then "" else s ++ "\n") ∧
      trimmed Text.trimEnd (spell ts) = s ∧ (s = "" → ts = []) := by
  obtain ⟨⟨ts, hspell, ha⟩, htrim⟩ := hs
  by_cases he : s = ""
  · subst he
    exact ⟨[], above_nil _, rfl, by simpa using htrim, fun _ => rfl⟩
  · have hne : ts ≠ [] := by
      rintro rfl
      exact he hspell.symm
    have hsp : spell (ts ++ [.newline]) = s ++ "\n" := by
      rw [spell_append, hspell]
      rfl
    refine ⟨ts ++ [.newline], ha.line hne, by simp [hsp, he], ?_, fun h => absurd h he⟩
    rw [hsp, trimmed_trimEnd_newline, htrim]

/-- What the reader makes of the imports of a print. -/
structure ImportsReadBack (f : File) (importLeading : String) (imports : List ImportSpec) :
    Prop where
  same : ¬ f.MovesComments → importLeading = f.importLeading ∧ imports = f.sortedImports
  moved : f.MovesComments → importLeading = "" ∧ ∃ s ls, f.sortedImports = [s] ∧ ls ≠ [] ∧
    imports = [{ s with leading := ls }]

lemma mem_of_mem_sortedImports {s : ImportSpec} (h : s ∈ f.sortedImports) : s ∈ f.imports := by
  have h := (File.dropRepeats_sublist _).mem h
  rwa [List.mem_mergeSort] at h

/-- The reader with nothing but a package clause read. -/
structure Fresh (f : File) : Prop where
  importLeading : f.importLeading = ""
  imports : f.imports = []
  importTail : f.importTail = []

lemma trimEnd_cons {c : Char} (hc : Text.isBlank c = false) (cs : List Char) :
    ∃ ds, Text.trimEnd (c :: cs) = c :: ds := by
  simp only [Text.trimEnd, List.reverse_cons, List.dropWhile_append]
  split
  · exact ⟨[], by simp [hc]⟩
  · exact ⟨_, by rw [List.reverse_append]; rfl⟩

lemma commentLines_ne_nil {c : Char} (hc : Text.isBlank c = false) (cs : List Char) :
    ReadState.commentLines (String.ofList (c :: cs)) ≠ [] := by
  have hn : (c == '\n') = false := by
    rw [beq_eq_false_iff_ne]
    rintro rfl
    exact absurd hc (by decide)
  obtain ⟨l, ls, hl⟩ : ∃ l ls, (c :: cs).splitOn '\n' = (c :: l) :: ls := by
    obtain ⟨l, ls, hl⟩ := List.exists_cons_of_ne_nil (List.splitOnP_ne_nil (· == '\n') cs)
    refine ⟨l, ls, ?_⟩
    rw [List.splitOn, List.splitOnP_cons_eq_if_modifyHead, hn, hl]
    rfl
  obtain ⟨ds, hd⟩ := trimEnd_cons hc l
  have ht : Text.trim (c :: l) = c :: ds := by
    rw [Text.trim, Text.trimStart, List.dropWhile_cons_of_neg (by simp [hc]), hd]
  simp only [ReadState.commentLines, ReadState.commentLines.lines, String.toList_ofList, hl,
    List.filterMap_cons, ht]
  simp

/-- Comments are kept where an item stands below them. -/
lemma leadingLines_ne_nil {ts : List Lexeme} (ha : Above (fun c => !Text.isBlank c) ts)
    (hne : ts ≠ []) : leadingLines ts ≠ [] := by
  obtain ⟨t, us, rfl⟩ := List.exists_cons_of_ne_nil hne
  obtain ⟨s, rfl⟩ := ha.first t (by simp)
  obtain ⟨c, rest, hc, hb⟩ := (ha.reads 'p' [] (by decide)).1.head_not_blank (by simp)
    (by simp)
  obtain ⟨ds, hd⟩ := trimEnd_cons hb (rest ++ chars us)
  have htrim : trimmed Text.trimEnd (spell (.comment s :: us)) = String.ofList (c :: ds) := by
    rw [trimmed, toList_spell_eq_chars, chars_cons, hc, List.cons_append, hd]
  simpa [leadingLines, kept, htrim] using commentLines_ne_nil hb ds

lemma sortedImports_eq_nil : f.sortedImports = [] ↔ f.imports = [] := by
  constructor
  · intro h
    by_contra hne
    refine File.dropRepeats_ne_nil ?_ h
    intro hs
    exact hne (List.length_eq_zero_iff.mp (by rw [← List.length_mergeSort f.imports, hs]; rfl))
  · intro h
    simp [File.sortedImports, h, File.dropRepeats]

/-- The three forms of the imports of a print. -/
lemma renderImports_cases (f : File) :
    (f.sortedImports = [] ∧ f.importTail = [] ∧ f.renderImports = "") ∨
    (∃ s, f.sortedImports = [s] ∧ s.leading = [] ∧ f.importTail = [] ∧
      f.renderImports = "import " ++ s.text) ∨
    (f.renderImports = File.importBlock f.sortedImports f.importTail ∧
      ¬ (f.importTail = [] ∧ ∃ s, f.sortedImports = [s] ∧ s.leading = [])) := by
  unfold File.renderImports
  split
  · next h =>
    by_cases ht : f.importTail = []
    · exact .inl ⟨h, ht, by simp [ht]⟩
    · exact .inr (.inr ⟨by simp [ht, h], by simp [ht]⟩)
  · next s h =>
    by_cases hc : s.leading = [] ∧ f.importTail = []
    · exact .inr (.inl ⟨s, h, hc.1, hc.2, by simp [hc.1, hc.2]⟩)
    · refine .inr (.inr ⟨?_, ?_⟩)
      · rw [if_neg (by simpa using hc), h]
      · rintro ⟨ht, t, hs, hl⟩
        rw [h] at hs
        obtain rfl : s = t := by simpa using hs
        exact hc ⟨hl, ht⟩
  · next h1 h2 =>
    exact .inr (.inr ⟨rfl, fun ⟨_, s, hs, _⟩ => h2 s hs⟩)

lemma section_importLines {f₀ : File} (hf : f.Tidy) (h₀ : Fresh f₀) :
    ∃ importLeading imports last, ImportsReadBack f importLeading imports ∧
      Section (importLines f) (At f₀ .package "\n")
        (At { f₀ with importLeading, imports, importTail := f.importTail } last "\n") := by
  obtain ⟨above, ha, hspell, htrim, hempty⟩ := hf.importLeading.above
  have hspecs : ∀ s ∈ f.sortedImports, s.Tidy := fun s hs =>
    hf.imports s (mem_of_mem_sortedImports hs)
  have htext : (f.importLeading.isEmpty && f.renderImports.isEmpty) = false →
      importLines f = "\n" ++ (spell above ++ f.renderImports ++ "\n") := by
    intro h
    rw [importLines, if_neg (by simp [h]), ← hspell]
    simp only [String.append_assoc]
  have hgap : breaks "\n\n" ≠ 0 := by decide
  rcases renderImports_cases f with ⟨hs, ht, hr⟩ | ⟨s, hs, hl, ht, hr⟩ | ⟨hr, hno⟩
  · -- nothing is printed
    have hlead : f.importLeading = "" := by
      rcases hf.block with h | h | h
      · exact h
      · exact absurd (sortedImports_eq_nil.mp hs) h
      · exact absurd ht h
    refine ⟨"", [], .package, ⟨fun _ => ⟨hlead.symm, hs.symm⟩, fun h => absurd hlead h.1⟩, ?_⟩
    have htxt : importLines f = "" := by simp [importLines, hlead, hr]
    have heq : { f₀ with importLeading := "", imports := [], importTail := f.importTail } = f₀ := by
      obtain ⟨h1, h2, h3⟩ := h₀
      cases f₀
      simp_all
    rw [htxt, heq]
    exact Section.refl _
  · -- one import on a line of its own
    have hone := section_importOne f₀ .package ha (hspecs s (by simp [hs])) hgap
    have himp : { f₀ with
        importLeading := "", imports := [{ s with leading := leadingLines above }],
        importTail := f.importTail } =
        { f₀ with imports := f₀.imports ++ [{ s with leading := leadingLines above }] } := by
      obtain ⟨h1, h2, h3⟩ := h₀
      cases f₀
      simp_all
    refine ⟨"", [{ s with leading := leadingLines above }], .imports,
      ⟨fun h => ?_, fun h => ?_⟩, ?_⟩
    · have hlead : f.importLeading = "" := by
        by_contra hne
        exact h ⟨hne, ht, s, hs, hl⟩
      have hnil : leadingLines [] = s.leading := hl.symm
      rw [hempty hlead, hs, hlead, hnil]
      exact ⟨rfl, rfl⟩
    · refine ⟨rfl, s, leadingLines above, hs, leadingLines_ne_nil ha ?_, rfl⟩
      rintro rfl
      exact h.1 (by rw [← htrim]; rfl)
    · rw [htext (by simp [hr]), hr, himp]
      simpa [String.append_assoc] using section_blankLine.append hone
  · -- a group
    have hgroup := section_importGroup f₀ .package ha hspecs hf.importTail h₀.importLeading hgap
    rw [h₀.imports, h₀.importTail, htrim, List.nil_append, List.nil_append] at hgroup
    refine ⟨f.importLeading, f.sortedImports, .imports, ⟨fun _ => ⟨rfl, rfl⟩, fun h => ?_⟩, ?_⟩
    · obtain ⟨-, ht, s, hs, hl⟩ := h
      exact absurd ⟨ht, s, hs, hl⟩ hno
    · have hne : f.renderImports ≠ "" := by
        rw [hr]
        intro h
        have := congrArg String.toList h
        simp [File.importBlock] at this
      rw [htext (by simp [hne]), hr]
      exact section_blankLine.append hgroup

/-! ### The whole file -/

/-- What a file is after printing and reading. -/
structure File.ReadBack (f g : File) : Prop where
  header : g.header = f.header
  packageLine : g.packageLine = f.packageLine
  imports : ImportsReadBack f g.importLeading g.imports
  importTail : g.importTail = f.importTail
  decls : DeclsReadBack f.decls g.decls
  trailer : g.trailer = f.trailer

/-- The file that a reader ends with. -/
def ReadState.final (s : ReadState) : File :=
  { s.file with trailer := (s.pending.map (trimmed Text.trimEnd)).getD s.file.trailer }

lemma read_eq_final {header rest : String} {Q : ReadState → Prop} (hh : HeaderReads header)
    (hrest : Section rest (Start header) Q) (hp : ∃ cs, rest.toList = 'p' :: cs)
    (hQ : ∀ s, Q s → s.seenPackage = true) :
    ∃ s, Q s ∧ File.read (header ++ rest) = .ok s.final := by
  obtain ⟨-, hs, hspell, htriv, hscan⟩ := hh
  obtain ⟨ts, hts, hreads, hleads⟩ := hrest
  obtain ⟨cs, hcs⟩ := hp
  have hlex : scan (header ++ rest) = hs ++ ts := by
    have hall : scanAll ('p' :: cs) = ts := by
      have h := scanAll_readsAll (hreads [])
      rw [List.append_nil, ← toList_spell_eq_chars, hts, hcs] at h
      simpa using h
    rw [← hall, ← hscan cs, ← hcs, ← String.toList_append, String.ofList_toList]
  have hstart : Start header ((hs.map piece).foldl ReadState.step .start) := by
    have h₀ : Start "" .start := ⟨_, _, rfl⟩
    have h := start_foldl h₀ htriv
    rwa [hspell, String.empty_append] at h
  obtain ⟨ps, hq, ho⟩ := hleads ((hs ++ ts).length + 1) (by simp) _ hstart
  have hout : outline (header ++ rest) = some (hs.map piece ++ ps) := by
    have h := Outlines.trivia htriv (ho [] [] (outlines_nil (by simp)))
    simp only [List.append_nil] at h
    rw [outline, hlex]
    exact h _ (by simp)
  refine ⟨_, hq, ?_⟩
  have hseen := hQ _ hq
  rw [File.read, hout]
  simp only [File.ofPieces, List.foldl_append]
  rw [if_pos hseen]
  rfl

/-- At the end of a source whose trailer is `trailer`. -/
def AtEnd (f : File) (trailer : String) (s : ReadState) : Prop :=
  s.file = f ∧ s.seenPackage = true ∧
    (s.pending.map (trimmed Text.trimEnd)).getD f.trailer = trailer

lemma section_trailerLines (g : File) (last : LastItem) (hf : IsComments f.trailer)
    (hg : g.trailer = "") :
    Section (trailerLines f) (At g last "\n") (AtEnd g f.trailer) := by
  obtain ⟨⟨ts, hspell, ha⟩, htrim⟩ := hf
  by_cases he : f.trailer = ""
  · rw [trailerLines, if_pos (by simp [he])]
    refine (Section.refl _).mono (fun _ h => h) ?_
    rintro s ⟨before, rfl⟩
    exact ⟨rfl, rfl, by rw [he]; exact hg⟩
  · have hne : ts ≠ [] := by
      rintro rfl
      exact he hspell.symm
    rw [trailerLines, if_neg (by simp [he]), ← hspell, String.append_assoc]
    refine (section_blankLine.append
      (section_trailer g last ha hne (by decide))).mono (fun _ h => h) ?_
    rintro s ⟨hfile, hseen, hpending⟩
    refine ⟨hfile, hseen, ?_⟩
    rw [hpending, hspell, Option.map_some, Option.getD_some, trimmed_trimEnd_newline, htrim]

/-- **A tidy file is read back from its print.** -/
theorem read_print (hf : f.Tidy) : ∃ g, File.read f.print = .ok g ∧ f.ReadBack g := by
  obtain ⟨package, h₁⟩ := section_package f.header hf.packageLine
  obtain ⟨f₀, h₀⟩ : ∃ f₀ : File, f₀ =
      { header := trimmed Text.trimStart f.header, packageLine := f.packageLine, package } :=
    ⟨_, rfl⟩
  rw [← h₀] at h₁
  obtain ⟨importLeading, imports, last, himports, h₂⟩ :=
    section_importLines hf (⟨by rw [h₀], by rw [h₀], by rw [h₀]⟩ : Fresh f₀)
  obtain ⟨f₁, hf₁⟩ : ∃ f₁ : File,
      f₁ = { f₀ with importLeading, imports, importTail := f.importTail } := ⟨_, rfl⟩
  rw [← hf₁] at h₂
  obtain ⟨ds, last', hds, h₃⟩ := section_allDeclLines f₁ last hf.decls
  have h₄ := section_trailerLines { f₁ with decls := f₁.decls ++ ds } last' hf.trailer
    (by rw [hf₁, h₀])
  have hp : ∃ cs, (f.packageLine ++ "\n" ++ (importLines f ++ (allDeclLines f.decls ++
      trailerLines f))).toList = 'p' :: cs := by
    obtain ⟨mid, name, beside, hl, -⟩ := hf.packageLine
    exact ⟨_, by
      rw [String.toList_append, String.toList_append, hl, toList_spell_eq_chars]
      rfl⟩
  obtain ⟨s, ⟨hfile, -, hpending⟩, hread⟩ :=
    read_eq_final hf.header (h₁.append (h₂.append (h₃.append h₄))) hp fun s hs => hs.2.1
  refine ⟨s.final, by rw [print_eq_lines]; exact hread, ?_⟩
  have hfinal : s.final = { f₁ with decls := f₁.decls ++ ds, trailer := f.trailer } := by
    rw [ReadState.final, hfile, hpending]
  rw [hfinal, hf₁, h₀]
  exact ⟨hf.header.1, rfl, himports, rfl, by simpa using hds, rfl⟩

end SchemaGo.Go
