import Mathlib
import SchemaGo.Proofs.Merge.Frame
import SchemaGo.Proofs.Go.Reprint

/-!
The imports after a merge. A managed import is there if and only if it is needed or referred to,
and a file of which that is true keeps its imports.
-/

namespace SchemaGo.Merge

open Go

variable {f g : File} {needed : List String}

lemma hasImport_iff {path : String} :
    f.hasImport path = true ↔ ∃ s ∈ f.imports, s.path = path := by
  simp [File.hasImport]

/-! ### What is imported -/

lemma imports_setImport (f : File) (path : String) (keep : Bool) :
    (setImport f path keep).imports = f.imports.filter (fun s => s.path != path || keep) ++
      if keep && !f.hasImport path then [.plain path] else [] := by
  cases keep with
  | true => by_cases h : f.hasImport path = true <;> simp [setImport, File.addImport, h]
  | false =>
    by_cases h : f.hasImport path = true
    · simp [setImport, File.removeImport, h]
    · have hs : f.imports.filter (fun s => s.path != path) = f.imports :=
        List.filter_eq_self.mpr fun s hs => by
          simpa using fun hp : s.path = path => h (hasImport_iff.mpr ⟨s, hs, hp⟩)
      simp [setImport, h, hs]

lemma mem_setImport {path : String} {keep : Bool} {s : ImportSpec} :
    s ∈ (setImport f path keep).imports ↔
      (s ∈ f.imports ∧ (s.path = path → keep = true)) ∨
        (keep = true ∧ f.hasImport path = false ∧ s = .plain path) := by
  rw [imports_setImport, List.mem_append, List.mem_filter]
  cases keep <;> by_cases h : f.hasImport path = true <;> simp [h]

lemma hasImport_setImport {path other : String} (keep : Bool) (h : other ≠ path) :
    (setImport f path keep).hasImport other = f.hasImport other := by
  rw [Bool.eq_iff_iff, hasImport_iff, hasImport_iff]
  constructor
  · rintro ⟨s, hs, rfl⟩
    rcases mem_setImport.mp hs with ⟨hs, -⟩ | ⟨-, -, rfl⟩
    · exact ⟨s, hs, rfl⟩
    · exact absurd rfl h
  · rintro ⟨s, hs, rfl⟩
    exact ⟨s, mem_setImport.mpr (.inl ⟨hs, fun hp => absurd hp h⟩), rfl⟩

/-- What stays keeps its order, and what is new stands last. -/
lemma imports_foldl_setImport (keep : String → Bool) {paths : List String} (hn : paths.Nodup)
    (f : File) :
    (paths.foldl (fun g p => setImport g p (keep p)) f).imports =
      f.imports.filter (fun s => !paths.contains s.path || keep s.path) ++
        (paths.filter fun p => keep p && !f.hasImport p).map .plain := by
  induction paths generalizing f with
  | nil => simp
  | cons p ps ih =>
    obtain ⟨hp, hps⟩ := List.nodup_cons.mp hn
    have hother : ∀ q ∈ ps, (setImport f p (keep p)).hasImport q = f.hasImport q :=
      fun q hq => hasImport_setImport _ fun h => hp (h ▸ hq)
    have hnew : (ps.filter fun q => keep q && !(setImport f p (keep p)).hasImport q) =
        ps.filter fun q => keep q && !f.hasImport q :=
      List.filter_congr fun q hq => by rw [hother q hq]
    have hold : f.imports.filter (fun s => !(p :: ps).contains s.path || keep s.path) =
        (f.imports.filter fun s => s.path != p || keep p).filter
          fun s => !ps.contains s.path || keep s.path := by
      rw [List.filter_filter]
      refine List.filter_congr fun s _ => ?_
      by_cases hs : s.path = p
      · simp [hs, hp]
      · simp [hs]
    rw [List.foldl_cons, ih hps, hnew, imports_setImport, List.filter_append, hold,
      List.append_assoc]
    congr 1
    by_cases hk : (keep p && !f.hasImport p) = true
    · simp [hk, hp, ImportSpec.plain]
    · simp [hk]

/-- The import of `path` is needed or referred to. -/
def isKept (f : File) (needed : List String) (path : String) : Bool :=
  needed.contains path || isReferenced f path

lemma managedImports_nodup : managedImports.Nodup := by decide

/-- **The imports after a merge**: those that are not managed and those that are kept, as they were,
and behind them the ones that are needed and were missing. -/
theorem imports_syncImports (f : File) (needed : List String) :
    (syncImports f needed).imports =
      f.imports.filter (fun s => !managedImports.contains s.path || isKept f needed s.path) ++
        (managedImports.filter fun p => isKept f needed p && !f.hasImport p).map .plain :=
  imports_foldl_setImport (isKept f needed) managedImports_nodup f

theorem mem_syncImports {s : ImportSpec} :
    s ∈ (syncImports f needed).imports ↔
      (s ∈ f.imports ∧ (s.path ∈ managedImports → isKept f needed s.path = true)) ∨
        ∃ p ∈ managedImports, isKept f needed p = true ∧ f.hasImport p = false ∧ s = .plain p := by
  have hstay : (!managedImports.contains s.path || isKept f needed s.path) = true ↔
      (s.path ∈ managedImports → isKept f needed s.path = true) := by
    by_cases hs : s.path ∈ managedImports <;> simp [hs]
  rw [imports_syncImports, List.mem_append, List.mem_filter, List.mem_map, hstay]
  simp only [List.mem_filter, Bool.and_eq_true, Bool.not_eq_true', and_assoc, eq_comm (b := s)]

lemma hasImport_syncImports {path : String} (hp : path ∈ managedImports) :
    (syncImports f needed).hasImport path = isKept f needed path := by
  rw [Bool.eq_iff_iff, hasImport_iff]
  constructor
  · rintro ⟨s, hs, rfl⟩
    rcases mem_syncImports.mp hs with ⟨-, hk⟩ | ⟨p, -, hk, -, rfl⟩
    · exact hk hp
    · exact hk
  · intro hk
    by_cases hf : f.hasImport path = true
    · obtain ⟨s, hs, rfl⟩ := hasImport_iff.mp hf
      exact ⟨s, mem_syncImports.mpr (.inl ⟨hs, fun _ => hk⟩), rfl⟩
    · exact ⟨_, mem_syncImports.mpr (.inr ⟨path, hp, hk, by simpa using hf, rfl⟩), rfl⟩

/-! ### Imports that stay -/

lemma setImport_eq_self {path : String} {keep : Bool} (h : f.hasImport path = keep) :
    setImport f path keep = f := by
  cases keep <;> simp [setImport, File.addImport, h]

lemma syncImports_eq_self
    (h : ∀ p ∈ managedImports, f.hasImport p = isKept f needed p) : syncImports f needed = f := by
  have key : ∀ paths : List String, (∀ p ∈ paths, f.hasImport p = isKept f needed p) →
      paths.foldl (fun g p => setImport g p (isKept f needed p)) f = f := by
    intro paths hps
    induction paths with
    | nil => rfl
    | cons p ps ih =>
      rw [List.foldl_cons, setImport_eq_self (hps p (by simp)),
        ih fun q hq => hps q (by simp [hq])]
  exact key managedImports h

/-- The two files import the same packages by the same names. -/
def SameNames (f g : File) : Prop :=
  ∀ path name, (∃ s ∈ f.imports, s.path = path ∧ s.localName = name) ↔
    ∃ s ∈ g.imports, s.path = path ∧ s.localName = name

lemma isReferenced_iff {path : String} :
    isReferenced f path = true ↔
      ∃ s ∈ f.imports, s.path = path ∧ s.localName ∈ f.preservedQualifiers := by
  simp [isReferenced]

lemma SameNames.hasImport (h : SameNames f g) (path : String) :
    g.hasImport path = f.hasImport path := by
  rw [Bool.eq_iff_iff, hasImport_iff, hasImport_iff]
  constructor
  · rintro ⟨s, hs, hp⟩
    obtain ⟨t, ht, hp', -⟩ := (h path s.localName).mpr ⟨s, hs, hp, rfl⟩
    exact ⟨t, ht, hp'⟩
  · rintro ⟨s, hs, hp⟩
    obtain ⟨t, ht, hp', -⟩ := (h path s.localName).mp ⟨s, hs, hp, rfl⟩
    exact ⟨t, ht, hp'⟩

lemma SameNames.isReferenced (h : SameNames f g)
    (hq : g.preservedQualifiers = f.preservedQualifiers) (path : String) :
    isReferenced g path = isReferenced f path := by
  rw [Bool.eq_iff_iff, isReferenced_iff, isReferenced_iff, hq]
  constructor
  · rintro ⟨s, hs, hp, hm⟩
    obtain ⟨t, ht, hp', hn⟩ := (h path s.localName).mpr ⟨s, hs, hp, rfl⟩
    exact ⟨t, ht, hp', hn ▸ hm⟩
  · rintro ⟨s, hs, hp, hm⟩
    obtain ⟨t, ht, hp', hn⟩ := (h path s.localName).mp ⟨s, hs, hp, rfl⟩
    exact ⟨t, ht, hp', hn ▸ hm⟩

/-- What is kept once is kept again: a reference to an import that stays is still one. -/
lemma isKept_syncImports {path : String} (hp : path ∈ managedImports) :
    isKept (syncImports f needed) needed path = isKept f needed path := by
  have hq : (syncImports f needed).preservedQualifiers = f.preservedQualifiers := by
    rw [File.preservedQualifiers, syncImports_decls, File.preservedQualifiers]
  by_cases hn : needed.contains path = true
  · simp only [isKept, hn, Bool.true_or]
  · simp only [isKept, hn, Bool.false_or]
    rw [Bool.eq_iff_iff, isReferenced_iff, isReferenced_iff, hq]
    constructor
    · rintro ⟨s, hs, rfl, hm⟩
      rcases mem_syncImports.mp hs with ⟨hs, -⟩ | ⟨p, -, hk, hf, rfl⟩
      · exact ⟨s, hs, rfl, hm⟩
      · -- it would be new, so nothing could have referred to it
        rcases (Bool.or_eq_true _ _).mp hk with hc | hr
        · exact absurd hc hn
        obtain ⟨t, ht, htp, -⟩ := isReferenced_iff.mp hr
        rw [hasImport_iff.mpr ⟨t, ht, htp⟩] at hf
        exact absurd hf (by simp)
    · rintro ⟨s, hs, rfl, hm⟩
      have hr := isReferenced_iff.mpr ⟨s, hs, rfl, hm⟩
      exact ⟨s, mem_syncImports.mpr (.inl ⟨hs, fun _ => by rw [isKept, hr, Bool.or_true]⟩), rfl, hm⟩

/-- **The imports are settled by one merge.** -/
theorem syncImports_again (hn : SameNames (syncImports f needed) g)
    (hq : g.preservedQualifiers = f.preservedQualifiers) : syncImports g needed = g := by
  refine syncImports_eq_self fun p hp => ?_
  have hq' : g.preservedQualifiers = (syncImports f needed).preservedQualifiers := by
    rw [hq, File.preservedQualifiers, File.preservedQualifiers, syncImports_decls]
  have hk : isKept g needed p = isKept (syncImports f needed) needed p := by
    rw [isKept, isKept, hn.isReferenced hq']
  rw [hn.hasImport, hasImport_syncImports hp, hk, isKept_syncImports hp]

lemma syncImports_idem (f : File) (needed : List String) :
    syncImports (syncImports f needed) needed = syncImports f needed := by
  refine syncImports_again (f := f) (fun _ _ => Iff.rfl) ?_
  rw [File.preservedQualifiers, syncImports_decls, File.preservedQualifiers]

/-! ### Imports that are read back -/

lemma localName_of_repeats {s t : ImportSpec} (h : File.Repeats s t) :
    s.path = t.path ∧ s.localName = t.localName := by
  refine ⟨h.1, ?_⟩
  rw [ImportSpec.localName, ImportSpec.localName, h.1, h.2]

lemma sameNames_of_readBack (h : ImportsReadBack f g.importLeading g.imports) :
    SameNames f g := by
  have hsorted : ∀ path name, (∃ s ∈ f.imports, s.path = path ∧ s.localName = name) ↔
      ∃ s ∈ f.sortedImports, s.path = path ∧ s.localName = name := by
    intro path name
    constructor
    · rintro ⟨s, hs, rfl, rfl⟩
      obtain ⟨t, ht, hr⟩ := File.exists_mem_dropRepeats (List.mem_mergeSort.mpr hs)
      exact ⟨t, ht, localName_of_repeats hr⟩
    · rintro ⟨s, hs, hp⟩
      exact ⟨s, mem_of_mem_sortedImports hs, hp⟩
  intro path name
  rw [hsorted]
  by_cases hm : f.MovesComments
  · obtain ⟨-, s, ls, hs, -, hg⟩ := h.moved hm
    simp [hs, hg, ImportSpec.localName]
  · rw [(h.same hm).2]

end SchemaGo.Merge
