import Mathlib
import SchemaGo.Proofs.Go.ImportOrder
import SchemaGo.Proofs.Merge.Fixpoint

/-!
The comments above the imports. They go with the last entry of the block, also where the next
managed import would have given the block a new one, so a file whose only import is traded for
another may lose them. Which trade loses them hangs on the order of the managed imports.
-/

namespace SchemaGo.Merge

open Go

variable {f g : File} {p q : String}

/-! ### One managed import -/

/-- The block of the file has entries for `path` and nothing else. -/
structure ImportsOnly (f : File) (path : String) : Prop where
  ne_nil : f.imports ≠ []
  path : ∀ s ∈ f.imports, s.path = path
  importTail : f.importTail = []

lemma importsOnly_congr (hi : f.imports.Perm g.imports) (ht : f.importTail = g.importTail) :
    ImportsOnly f p ↔ ImportsOnly g p := by
  constructor
  · rintro ⟨hne, hp, htail⟩
    exact ⟨fun h => hne (h ▸ hi).eq_nil, fun s hs => hp s (hi.mem_iff.mpr hs), ht ▸ htail⟩
  · rintro ⟨hne, hp, htail⟩
    exact ⟨fun h => hne (h ▸ hi.symm).eq_nil, fun s hs => hp s (hi.mem_iff.mp hs), ht ▸ htail⟩

lemma importsOnly_unique (hp : ImportsOnly f p) (hq : ImportsOnly f q) : p = q := by
  obtain ⟨s, hs⟩ := List.exists_mem_of_ne_nil _ hp.ne_nil
  exact (hp.path s hs).symm.trans (hq.path s hs)

lemma importTail_setImport (f : File) (path : String) (keep : Bool) :
    (setImport f path keep).importTail = f.importTail :=
  (setImport_frame f path keep).1.importTail

lemma hasImport_of_importsOnly (h : ImportsOnly f p) : f.hasImport p = true := by
  obtain ⟨s, hs⟩ := List.exists_mem_of_ne_nil _ h.ne_nil
  exact hasImport_iff.mpr ⟨s, hs, h.path s hs⟩

/-- The comments are dropped with the last entry. -/
lemma importLeading_setImport_dropped (h : ImportsOnly f p) :
    (setImport f p false).importLeading = "" := by
  have hnil : f.imports.filter (fun s => s.path != p) = [] :=
    List.filter_eq_nil_iff.mpr fun s hs => by simp [h.path s hs]
  simp [setImport, hasImport_of_importsOnly h, File.removeImport, hnil, h.importTail]

lemma importLeading_setImport {keep : Bool} (h : keep = true ∨ ¬ ImportsOnly f p) :
    (setImport f p keep).importLeading = f.importLeading := by
  rcases keep.eq_false_or_eq_true with rfl | rfl
  · simp only [setImport, if_true, File.addImport]
    split <;> rfl
  · have hno : ¬ ImportsOnly f p := by simpa using h
    by_cases hp : f.hasImport p = true
    · obtain ⟨t, ht, -⟩ := hasImport_iff.mp hp
      have hstay : ¬ (f.imports.filter (fun s => s.path != p) = [] ∧ f.importTail = []) := by
        rintro ⟨hnil, htail⟩
        refine hno ⟨List.ne_nil_of_mem ht, fun s hs => ?_, htail⟩
        simpa using List.filter_eq_nil_iff.mp hnil s hs
      simp only [setImport, hp, File.removeImport, if_true, Bool.false_eq_true, if_false]
      rw [if_neg (by simpa using hstay)]
    · simp [setImport, hp]

/-! ### Both managed imports -/

/-- The block had entries, and nothing is left of it. -/
structure Emptied (f g : File) : Prop where
  before : f.imports ≠ []
  importTail : f.importTail = []
  after : g.imports = []

lemma emptied_congr {k : File} (h : k.imports.Perm g.imports) : Emptied f k ↔ Emptied f g :=
  ⟨fun hk => ⟨hk.before, hk.importTail, (hk.after ▸ h.symm).eq_nil⟩,
    fun hg => ⟨hg.before, hg.importTail, (hg.after ▸ h).eq_nil⟩⟩

/-- The only import `p` is traded for `q`. -/
def Trades (f g : File) (p q : String) : Prop := ImportsOnly f p ∧ ImportsOnly g q

section Pair

variable {kp kq : Bool}

/-- When an entry of `p` is not kept, none is left. -/
lemma imports_setImport_of_importsOnly (h : ImportsOnly f p) :
    (setImport f p false).imports = [] := by
  rw [imports_setImport]
  simpa using fun s hs => h.path s hs

lemma emptied_or_trades (h : ImportsOnly f p) :
    Emptied f (setImport (setImport f p false) q kq) ∨
      Trades f (setImport (setImport f p false) q kq) p q := by
  have hnil := imports_setImport_of_importsOnly h
  have htail : (setImport (setImport f p false) q kq).importTail = [] := by
    rw [importTail_setImport, importTail_setImport, h.importTail]
  cases kq with
  | false => exact .inl ⟨h.ne_nil, h.importTail, by simp [imports_setImport _ q, hnil]⟩
  | true =>
    have hg : (setImport (setImport f p false) q true).imports = [.plain q] := by
      simp [imports_setImport _ q, hnil, File.hasImport]
    exact .inr ⟨h, by simp [hg], by simp [hg, ImportSpec.plain], htail⟩

lemma emptied_of_dropped (hpq : p ≠ q) (h : ImportsOnly (setImport f p kp) q) :
    Emptied f (setImport (setImport f p kp) q false) := by
  refine ⟨?_, importTail_setImport f p kp ▸ h.importTail, imports_setImport_of_importsOnly h⟩
  obtain ⟨s, hs⟩ := List.exists_mem_of_ne_nil _ h.ne_nil
  rcases mem_setImport.mp hs with ⟨hs', -⟩ | ⟨-, -, rfl⟩
  · exact List.ne_nil_of_mem hs'
  · exact absurd (h.path _ hs) hpq

/-- What is kept first is still there at the end. -/
lemma exists_import_of_kept (hpq : p ≠ q) :
    ∃ s ∈ (setImport (setImport f p true) q kq).imports, s.path = p := by
  rw [← hasImport_iff, hasImport_setImport kq hpq, hasImport_iff]
  by_cases hp : f.hasImport p = true
  · obtain ⟨s, hs, rfl⟩ := hasImport_iff.mp hp
    exact ⟨s, mem_setImport.mpr (.inl ⟨hs, fun _ => rfl⟩), rfl⟩
  · exact ⟨.plain p, mem_setImport.mpr (.inr ⟨rfl, by simpa using hp, rfl⟩), rfl⟩

lemma importsOnly_of_emptied (hpq : p ≠ q)
    (h : Emptied f (setImport (setImport f p kp) q kq)) :
    (kp = false ∧ ImportsOnly f p) ∨ (kq = false ∧ ImportsOnly (setImport f p kp) q) := by
  have hno : ∀ s, s ∉ (setImport (setImport f p kp) q kq).imports := by simp [h.after]
  have hkp : kp = false := by
    rw [Bool.eq_false_iff]
    rintro rfl
    have hkept : ∃ s ∈ (setImport (setImport f p true) q kq).imports, s.path = p :=
      exists_import_of_kept hpq
    obtain ⟨s, hs, -⟩ := hkept
    exact hno s hs
  have hall : ∀ s ∈ (setImport f p kp).imports, s.path = q ∧ kq = false := by
    intro s hs
    by_contra hc
    refine hno s (mem_setImport.mpr (.inl ⟨hs, fun hq => ?_⟩))
    simpa [hq] using hc
  by_cases hnil : (setImport f p kp).imports = []
  · refine .inl ⟨hkp, h.before, fun s hs => ?_, h.importTail⟩
    by_contra hs'
    have hmem : s ∈ (setImport f p kp).imports :=
      mem_setImport.mpr (.inl ⟨hs, fun h => absurd h hs'⟩)
    simp [hnil] at hmem
  · obtain ⟨s, hs⟩ := List.exists_mem_of_ne_nil _ hnil
    exact .inr ⟨(hall s hs).2, hnil, fun t ht => (hall t ht).1,
      (importTail_setImport f p kp).trans h.importTail⟩

/-- **What becomes of the comments**: they are lost where the block is emptied, and where the only
entry of the block is traded in this order. -/
lemma importLeading_pair (hpq : p ≠ q) (hg : g = setImport (setImport f p kp) q kq) :
    (Emptied f g ∨ Trades f g p q → g.importLeading = "") ∧
      (¬ (Emptied f g ∨ Trades f g p q) → g.importLeading = f.importLeading) := by
  subst hg
  have hfirst : Trades f (setImport (setImport f p kp) q kq) p q → kp = false := by
    rintro ⟨-, hq⟩
    rw [Bool.eq_false_iff]
    rintro rfl
    have hkept : ∃ s ∈ (setImport (setImport f p true) q kq).imports, s.path = p :=
      exists_import_of_kept hpq
    obtain ⟨s, hs, rfl⟩ := hkept
    exact hpq (hq.path s hs)
  constructor
  · intro h
    have hdrop : (kp = false ∧ ImportsOnly f p) ∨
        (kq = false ∧ ImportsOnly (setImport f p kp) q) :=
      h.elim (importsOnly_of_emptied hpq) fun ht => .inl ⟨hfirst ht, ht.1⟩
    rcases hdrop with ⟨rfl, hp⟩ | ⟨rfl, hq⟩
    · exact setImport_importLeading q kq (importLeading_setImport_dropped hp)
    · exact importLeading_setImport_dropped hq
  · intro h
    rw [importLeading_setImport, importLeading_setImport]
    · by_contra hc
      obtain ⟨rfl, hp⟩ : kp = false ∧ ImportsOnly f p := by simpa using hc
      exact h (emptied_or_trades hp)
    · by_contra hc
      obtain ⟨rfl, hq⟩ : kq = false ∧ ImportsOnly (setImport f p kp) q := by simpa using hc
      exact h (.inl (emptied_of_dropped hpq hq))

end Pair

/-! ### The order of the managed imports -/

/-- What settling the imports comes to if the managed ones are gone through in the order
`paths`. -/
def syncInOrder (paths : List String) (f : File) (needed : List String) : File :=
  paths.foldl (fun g p => setImport g p (isKept f needed p)) f

lemma syncInOrder_managedImports (f : File) (needed : List String) :
    syncInOrder managedImports f needed = syncImports f needed := rfl

variable {needed : List String}

lemma jsonImport_ne_timeImport : jsonImport ≠ timeImport := by decide

/-- The order in which entries are added does not show in the sorted block. -/
lemma sortedImports_syncInOrder_reverse (f : File) (needed : List String) :
    (syncInOrder managedImports.reverse f needed).sortedImports =
      (syncImports f needed).sortedImports := by
  refine File.sortedImports_congr fun s => ?_
  have hold : ∀ t : ImportSpec, managedImports.reverse.contains t.path =
      managedImports.contains t.path := fun t => by simp
  have hplain : (((managedImports.filter fun p => isKept f needed p && !f.hasImport p).map
      .plain).Pairwise fun a b => ¬ File.Repeats a b) := by
    refine List.pairwise_map.mpr ((managedImports_nodup.filter _).imp fun hne h => ?_)
    exact hne h.1
  rw [syncInOrder, imports_foldl_setImport _ (List.nodup_reverse.mpr managedImports_nodup),
    imports_syncImports, File.first?_append, File.first?_append]
  simp only [hold]
  rw [File.first?_perm ((List.reverse_perm managedImports).symm.filter _ |>.map _) hplain]

/-- The comments above the imports show in the section of the imports. -/
lemma importLeading_of_importSection (hi : g.renderImports = f.renderImports)
    (h : g.importSection = f.importSection) : g.importLeading = f.importLeading := by
  have hcommented : ∀ k : File, k.importLeading ≠ "" →
      k.importSection = "\n\n" ++ (k.importLeading ++ "\n" ++ k.renderImports) := by
    intro k hk
    have he : k.importLeading.isEmpty = false := by simpa using hk
    simp only [File.importSection, he, Bool.false_and, Bool.false_eq_true, if_false,
      String.append_assoc]
  have hbare : ∀ k : File, k.importLeading = "" →
      k.importSection.length ≤ "\n\n".length + k.renderImports.length := by
    intro k hk
    simp only [File.importSection, hk]
    split <;> simp
  have hone : "\n".length = 1 := by rfl
  by_cases hg : g.importLeading = "" <;> by_cases hf : f.importLeading = ""
  · rw [hg, hf]
  · have hlen := hbare g hg
    rw [h, hcommented f hf, hi] at hlen
    simp only [String.length_append] at hlen
    omega
  · have hlen := hbare f hf
    rw [← h, hcommented g hg, hi] at hlen
    simp only [String.length_append] at hlen
    omega
  · rw [hcommented g hg, hcommented f hf, hi] at h
    have hchars := congrArg String.toList h
    simp only [String.toList_append, List.append_cancel_left_eq, List.append_cancel_right_eq]
      at hchars
    exact String.toList_injective hchars

lemma SameFrame.symm (h : SameFrame f g) : SameFrame g f :=
  ⟨h.header.symm, h.package.symm, h.packageLine.symm, h.importTail.symm, h.trailer.symm⟩

/-- Two files that agree in all but the comments above the imports. -/
lemma print_eq_iff_importLeading (h : SameFrame f g) (hd : g.decls = f.decls)
    (hs : g.sortedImports = f.sortedImports) :
    g.print = f.print ↔ g.importLeading = f.importLeading := by
  have hi : g.renderImports = f.renderImports := by
    simp only [File.renderImports, hs, h.importTail]
  constructor
  · intro hp
    refine importLeading_of_importSection hi (String.toList_injective ?_)
    have hchars := congrArg String.toList hp
    simpa only [File.print, h.header, h.packageLine, h.trailer, hd, String.toList_append,
      List.append_assoc, List.append_cancel_left_eq, List.append_cancel_right_eq] using hchars
  · intro hl
    simp only [File.print, File.importSection, hi, hl, h.header, h.packageLine, h.trailer, hd]

lemma imports_syncInOrder_reverse (f : File) (needed : List String) :
    (syncInOrder managedImports.reverse f needed).imports.Perm (syncImports f needed).imports := by
  have hold : ∀ t : ImportSpec, managedImports.reverse.contains t.path =
      managedImports.contains t.path := fun t => by simp
  rw [syncInOrder, imports_foldl_setImport _ (List.nodup_reverse.mpr managedImports_nodup),
    imports_syncImports]
  simp only [hold]
  exact (((List.reverse_perm managedImports).filter _).map _).append_left _

/-- **The order of the managed imports shows** where the only import of a commented block is traded
for another, and nowhere else. -/
theorem print_syncInOrder_reverse (f : File) (needed : List String) :
    (syncInOrder managedImports.reverse f needed).print = (syncImports f needed).print ↔
      f.importLeading = "" ∨ ¬ (Trades f (syncImports f needed) jsonImport timeImport ∨
        Trades f (syncImports f needed) timeImport jsonImport) := by
  obtain ⟨g, hg⟩ : ∃ g, g = syncImports f needed := ⟨_, rfl⟩
  obtain ⟨k, hk⟩ : ∃ k, k = syncInOrder managedImports.reverse f needed := ⟨_, rfl⟩
  have hframe : SameFrame f g ∧ g.decls = f.decls :=
    hg ▸ foldl_setImport_frame (isKept f needed) managedImports f
  have hframe' : SameFrame f k ∧ k.decls = f.decls :=
    hk ▸ foldl_setImport_frame (isKept f needed) managedImports.reverse f
  have hperm : k.imports.Perm g.imports := hk ▸ hg ▸ imports_syncInOrder_reverse f needed
  have hsorted : k.sortedImports = g.sortedImports :=
    hk ▸ hg ▸ sortedImports_syncInOrder_reverse f needed
  have htail : k.importTail = g.importTail := hframe'.1.importTail.trans hframe.1.importTail.symm
  have hempty : Emptied f k ↔ Emptied f g := emptied_congr hperm
  have htrades : Trades f k timeImport jsonImport ↔ Trades f g timeImport jsonImport :=
    and_congr_right fun _ => importsOnly_congr hperm htail
  obtain ⟨hlost, hstays⟩ := importLeading_pair jsonImport_ne_timeImport hg
  obtain ⟨hlost', hstays'⟩ := importLeading_pair jsonImport_ne_timeImport.symm hk
  rw [hempty, htrades] at hlost' hstays'
  rw [← hg, ← hk, print_eq_iff_importLeading (hframe.1.symm.trans hframe'.1)
    (hframe'.2.trans hframe.2.symm) hsorted]
  by_cases hl : f.importLeading = ""
  · have hnone : g.importLeading = "" ∧ k.importLeading = "" :=
      ⟨hg ▸ syncImports_importLeading needed hl,
        hk ▸ setImport_importLeading _ _ (setImport_importLeading _ _ hl)⟩
    simp [hl, hnone]
  by_cases he : Emptied f g
  · have hno : ∀ p q, ¬ Trades f g p q := fun p q h => h.2.ne_nil he.after
    simp [hlost (.inl he), hlost' (.inl he), hno]
  by_cases hj : Trades f g jsonImport timeImport
  · have ht : ¬ Trades f g timeImport jsonImport := fun h =>
      jsonImport_ne_timeImport (importsOnly_unique hj.1 h.1)
    simp [hlost (.inr hj), hstays' (by simp [he, ht]), hj, hl]
  by_cases ht : Trades f g timeImport jsonImport
  · simp [hstays (by simp [he, hj]), hlost' (.inr ht), ht, hl]
  · simp [hstays (by simp [he, hj]), hstays' (by simp [he, ht]), hj, ht]

/-! ### Merges -/

/-- **The comments above the imports live as long as the block**, unless the merge trades the one
entry of the block, that of JSON, for that of times. The other trade keeps them, so the order in
which the two are gone through shows. -/
theorem merge_importLeading {m : Model} (h : m.merge f = .ok g) :
    (g.importLeading = f.importLeading ∨ g.imports = [] ∧ g.importTail = [] ↔
      f.importLeading = "" ∨ ¬ Trades f g jsonImport timeImport) ∧
    ∀ k needed, (syncInOrder managedImports.reverse k needed).print =
        (syncImports k needed).print ↔
      k.importLeading = "" ∨ ¬ (Trades k (syncImports k needed) jsonImport timeImport ∨
        Trades k (syncImports k needed) timeImport jsonImport) := by
  refine ⟨?_, print_syncInOrder_reverse⟩
  obtain ⟨ds, needed, hg⟩ := merge_eq_syncImports h
  obtain ⟨hlost, hstays⟩ := importLeading_pair jsonImport_ne_timeImport hg
  have htrades : Trades { f with decls := ds } g jsonImport timeImport ↔
      Trades f g jsonImport timeImport :=
    and_congr_left fun _ => importsOnly_congr (f := { f with decls := ds }) (.refl _) rfl
  by_cases hl : f.importLeading = ""
  · have hg' : g.importLeading = "" := hg ▸ syncImports_importLeading needed hl
    simp [hl, hg']
  by_cases ht : Trades f g jsonImport timeImport
  · simp [hlost (.inr (htrades.mpr ht)), eq_comm (a := ""), hl, ht, ht.2.ne_nil]
  by_cases he : Emptied { f with decls := ds } g
  · have htail : g.importTail = [] :=
      hg ▸ (syncImports_frame _ needed).importTail.trans he.importTail
    simp [he.after, htail, ht]
  · have hkept := hstays (by simp [he, htrades, ht])
    simp [hkept, ht]

/-! ### Trades -/

/-- A file with comments above a group whose only import is that of times. -/
def commentedTime : String := "package models\n\n// clock\nimport (\n\t\"time\"\n)\n"

/-- A composite type with a document. -/
def letter : CompositeType := { name := "letter", columns := [⟨"body", { name := "json" }⟩] }

theorem merge_importLeading_letter :
    ∃ f g, File.read commentedTime = .ok f ∧ (Model.composite letter).merge f = .ok g ∧
      f.importLeading = "// clock" ∧ Trades f g timeImport jsonImport ∧
      (g.importLeading = f.importLeading ∨ g.imports = [] ∧ g.importTail = [] ↔
        f.importLeading = "" ∨ ¬ Trades f g jsonImport timeImport) ∧
      ∀ k needed,
        (syncInOrder managedImports.reverse k needed).print = (syncImports k needed).print ↔
          k.importLeading = "" ∨ ¬ (Trades k (syncImports k needed) jsonImport timeImport ∨
            Trades k (syncImports k needed) timeImport jsonImport) := by
  obtain ⟨f, hf⟩ : ∃ f : File, f = { File.empty "models" with
    importLeading := "// clock", imports := [.plain "time"] } := ⟨_, rfl⟩
  have himports : ((Model.composite letter).merge f).map (fun g => (g.imports, g.importTail)) =
      .ok ([.plain "encoding/json"], []) := by
    subst hf
    decide +kernel
  rcases hg : (Model.composite letter).merge f with e | g
  · simp [hg, Except.map] at himports
  obtain ⟨hi, ht⟩ : g.imports = [.plain "encoding/json"] ∧ g.importTail = [] := by
    simpa [hg, Except.map] using himports
  refine ⟨f, g, by subst hf; decide +kernel, hg, by rw [hf], ⟨?_, ?_⟩, merge_importLeading hg⟩
  · exact ⟨by simp [hf], by simp [hf, ImportSpec.plain, timeImport], by rw [hf]; rfl⟩
  · exact ⟨by simp [hi], by simp [hi, ImportSpec.plain, jsonImport], ht⟩

/-- As `commentedTime`, with JSON. -/
def commentedJson : String := "package models\n\n// stdlib\nimport (\n\t\"encoding/json\"\n)\n"

/-- A composite type with a time. -/
def booking : CompositeType := { name := "booking", columns := [⟨"day", { name := "date" }⟩] }

/-- **A trade that loses comments**: the block has an import before the merge and another one
behind it, but the comments above are gone. With the managed imports the other way round they would
still be there. -/
theorem merge_uncommented :
    ∃ f g, File.read commentedJson = .ok f ∧ (Model.composite booking).merge f = .ok g ∧
      f.importLeading = "// stdlib" ∧ g.importLeading = "" ∧ g.imports = [.plain "time"] ∧
      g = syncImports { f with decls := g.decls } ["time"] ∧
      (syncInOrder managedImports.reverse { f with decls := g.decls } ["time"]).print ≠
        g.print := by
  refine ⟨{ File.empty "models" with
      importLeading := "// stdlib", imports := [.plain "encoding/json"] }, _, ?_, rfl, ?_⟩
  · decide +kernel
  · decide +kernel

end SchemaGo.Merge
