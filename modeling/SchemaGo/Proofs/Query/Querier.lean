import Mathlib
import SchemaGo.Proofs.Merge.Names
import SchemaGo.Query.Querier

/-!
The shared file of the queries package is read back. But for the name of the package its text is
fixed, so its outline is computed.
-/

namespace SchemaGo

open Go Grammar Lexeme

/-! ### The names in an outline -/

namespace Go

/-- The names that a piece of an outline declares. -/
def Piece.names : Piece → List String
  | .item _ (.decl shape _) => shape.names
  | _ => []

namespace ReadState

variable {s : ReadState}

lemma namesOf_attach (s : ReadState) (text : String) :
    Merge.namesOf (s.attach text).file = Merge.namesOf s.file := by
  have hmodify : ∀ (ds : List Decl) (i : ℕ) (more : String),
      (ds.modify i fun d => { d with body := d.body ++ more }).flatMap (·.shape.names) =
        ds.flatMap (·.shape.names) := by
    intro ds i more
    induction ds generalizing i with
    | nil => simp
    | cons d ds ih => cases i <;> simp [ih]
  unfold attach Merge.namesOf
  cases s.last <;> simp [hmodify]

/-- Each piece adds its names to those of the file. -/
lemma step_names (s : ReadState) (p : Piece) :
    Merge.namesOf (s.step p).file = Merge.namesOf s.file ++ p.names ∧
      (s.seenPackage = true → (s.step p).seenPackage = true) := by
  cases p with
  | gap text =>
    have h : (s.pass text).file = s.file ∧ (s.pass text).seenPackage = s.seenPackage := by
      unfold pass
      split <;> exact ⟨rfl, rfl⟩
    simp [step, Piece.names, h]
  | comment text =>
    simp only [step]
    split
    · have hseen : (s.attach text).seenPackage = s.seenPackage := rfl
      simp [Piece.names, namesOf_attach, hseen]
    · simp [Piece.names]
  | item text i =>
    cases i <;> simp [step, addItem, addPackage, addImport, addImports, addDecl, Piece.names,
      Merge.namesOf]

lemma foldl_step_names (ps : List Piece) (s : ReadState) :
    Merge.namesOf (ps.foldl step s).file = Merge.namesOf s.file ++ ps.flatMap Piece.names ∧
      (s.seenPackage = true → (ps.foldl step s).seenPackage = true) := by
  induction ps generalizing s with
  | nil => simp
  | cons p ps ih =>
    obtain ⟨hnames, hseen⟩ := s.step_names p
    obtain ⟨ihnames, ihseen⟩ := ih (s.step p)
    refine ⟨?_, fun h => ihseen (hseen h)⟩
    rw [List.foldl_cons, ihnames, hnames, List.append_assoc, List.flatMap_cons]

end ReadState

/-- A file that starts with its package clause declares the names of the other pieces. -/
lemma ofPieces_package (text : String) (ps : List Piece) :
    ∃ g, File.ofPieces (.item text .package :: ps) = .ok g ∧
      Merge.namesOf g = ps.flatMap Piece.names := by
  obtain ⟨hnames, hseen⟩ :=
    ReadState.foldl_step_names ps (ReadState.start.step (.item text .package))
  have hif := hseen rfl
  generalize hs : ps.foldl ReadState.step
    (ReadState.start.step (.item text .package)) = s at hnames hif
  refine ⟨{ s.file with trailer := (s.pending.map (trimmed Text.trimEnd)).getD s.file.trailer },
    ?_, hnames⟩
  unfold File.ofPieces
  simp only [List.foldl_cons, hs]
  exact if_pos hif

end Go

/-! ### The querier -/

/-- The names that the shared file declares. -/
def querierNames : List String := ["Row", "Rows", "DBTX", "Querier", "New", "querier"]

lemma querierNames_nodup : querierNames.Nodup := by decide +kernel

/-- The lexemes behind the package clause. -/
def querierLexemes : List Lexeme := scanAll (querierLines.flatMap fun l => l.toList ++ ['\n'])

lemma outlineFrom_querier :
    (outlineFrom (upTo (querierLexemes.length + 5)) (querierLexemes.length + 3) .item
      querierLexemes).map (·.flatMap Piece.names) = some querierNames := by
  rw [querierLexemes]
  simp only [querierLines, List.flatMap_cons, List.flatMap_nil, List.append_nil]
  -- the kernel is slow at taking a text apart
  repeat rw [String.toList_ofList]
  decide +kernel

/-- The lexemes of a package clause on a line of its own. -/
def packageLexemes (package : String) : List Lexeme :=
  [.word "package", .blank " ", .word package, .newline]

lemma toList_renderQuerier (package : String) :
    (renderQuerier package).toList =
      chars (packageLexemes package) ++ querierLines.flatMap fun l => l.toList ++ ['\n'] := by
  have hjoin : ∀ ls : List String, (String.join (ls.map (· ++ "\n"))).toList =
      ls.flatMap fun l => l.toList ++ ['\n'] := by
    intro ls
    induction ls with
    | nil => rfl
    | cons l ls ih => simp [String.join_cons, ih]
  unfold renderQuerier
  rw [String.toList_append, hjoin]
  simp [packageLexemes, Lexeme.text]

lemma reads_packageLexemes {package : String} (hp : isWord package = true) (cs : List Char) :
    ReadsAll (packageLexemes package) cs := by
  refine ⟨reads_word (by decide +kernel) (isSpaces_one.isIdentPart _), ?_, reads_word hp ?_,
    reads_newline _, trivial⟩
  · simp only [chars_cons, Lexeme.text, List.append_assoc]
    exact isSpaces_one.reads (isSpace_of_isWord hp _)
  · rintro c ⟨rfl⟩
    rfl

lemma scan_renderQuerier {package : String} (hp : isWord package = true) :
    scan (renderQuerier package) = packageLexemes package ++ querierLexemes := by
  rw [scan_eq_scanAll, toList_renderQuerier, scanAll_readsAll (reads_packageLexemes hp _),
    querierLexemes]
  rw [toList_renderQuerier]
  simp [packageLexemes, Lexeme.text]

/-- The clause is the first item of a source. -/
lemma outlineFrom_package (inner : Inner) (n : ℕ) (package : String) (ts : List Lexeme) :
    outlineFrom inner (n + 2) .item (packageLexemes package ++ ts) =
      (outlineFrom inner n .item ts).map fun ps =>
        .item (spell [.word "package", .blank " ", .word package]) .package :: .gap "\n" :: ps := by
  have hblank : ∀ t ∈ [Lexeme.blank " "], isTrivia t = true := by simp [isTrivia]
  have hitem := item_package hblank inner package (.newline :: ts)
  have htake : (packageLexemes package ++ ts).take
      ((packageLexemes package ++ ts).length - (Lexeme.newline :: ts).length) =
      [.word "package", .blank " ", .word package] := by
    have hlen : (packageLexemes package ++ ts).length - (Lexeme.newline :: ts).length = 3 := by
      simp [packageLexemes]
    rw [hlen]
    rfl
  simp only [packageLexemes, List.cons_append, List.nil_append] at hitem htake ⊢
  simp only [outlineFrom, if_true, hitem, Option.bind_eq_bind, Option.bind_some, htake]
  cases outlineFrom inner n .item ts <;> rfl

/-- The clause is in front of what follows it, whatever that is. -/
lemma outline_packageLexemes {source package : String} {ts : List Lexeme} {ps : List Piece}
    (hscan : scan source = packageLexemes package ++ ts)
    (hps : outlineFrom (upTo (ts.length + 5)) (ts.length + 3) .item ts = some ps) :
    outline source =
      some (.item (spell [.word "package", .blank " ", .word package]) .package :: .gap "\n" ::
        ps) := by
  have hlen : (packageLexemes package ++ ts).length + 1 = ts.length + 3 + 2 := by
    simp [packageLexemes]
  unfold outline
  simp only [hscan, hlen]
  rw [outlineFrom_package, hps]
  rfl

/-- **The shared file is read back**, and declares its names. -/
theorem read_renderQuerier {package : String} (hp : isWord package = true) :
    ∃ g, File.read (renderQuerier package) = .ok g ∧ Merge.namesOf g = querierNames := by
  obtain ⟨ps, hps, hnames⟩ := Option.map_eq_some_iff.mp outlineFrom_querier
  have hout := outline_packageLexemes (scan_renderQuerier hp) hps
  obtain ⟨g, hg, hgnames⟩ := ofPieces_package
    (spell [.word "package", .blank " ", .word package]) (.gap "\n" :: ps)
  refine ⟨g, by rw [File.read, hout]; exact hg, hgnames.trans ?_⟩
  rw [List.flatMap_cons, hnames]
  rfl

end SchemaGo
