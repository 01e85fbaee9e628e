import Mathlib
import SchemaGo.Proofs.Merge.Settled
import SchemaGo.Proofs.Merge.Tidy

/-!
Merging twice. What a merge prints is a fixed point of the same merge, but for two cases: comments
above an import that stands alone move into a group, and of several blocks of an enum that has
lost its values each merge drops one.
-/

namespace SchemaGo.Merge

open Go

variable {f g g' : File} {m : Model}

/-! ### Files that have been read -/

/-- So far everything is the developer's. -/
def Unmanaged (s : ReadState) : Prop := ∀ d ∈ s.file.decls, d.managed = false

lemma unmanaged_attach {s : ReadState} (hs : Unmanaged s) (text : String) :
    Unmanaged (s.attach text) := by
  obtain ⟨file, seen, before, gap, pending, last⟩ := s
  cases last with
  | nothing | package | imports => exact hs
  | decl =>
    intro d hd
    rcases mem_of_mem_modify hd with hd | ⟨e, he, rfl⟩
    · exact hs d hd
    · exact hs e he

lemma unmanaged_step {s : ReadState} (hs : Unmanaged s) (p : Piece) : Unmanaged (s.step p) := by
  cases p with
  | gap text =>
    obtain ⟨file, seen, before, gap, pending, last⟩ := s
    cases pending <;> exact hs
  | comment text =>
    simp only [ReadState.step]
    split
    · exact unmanaged_attach hs text
    · exact hs
  | item text i =>
    cases i with
    | package | importOne e | importGroup parts => exact hs
    | decl shape qualifiers =>
      intro d hd
      rcases List.mem_append.mp hd with hd | hd
      · exact hs d hd
      · obtain rfl := List.mem_singleton.mp hd
        rfl

lemma current_unmanaged {existing : Option String} {package : String}
    (h : current existing package = .ok f) : ∀ d ∈ f.decls, d.managed = false := by
  cases existing with
  | none =>
    obtain rfl : File.empty package = f := by simpa [current] using h
    simp [File.empty]
  | some source =>
    have hsteps : ∀ (ps : List Piece) s, Unmanaged s → Unmanaged (ps.foldl ReadState.step s) := by
      intro ps
      induction ps with
      | nil => exact fun _ hs => hs
      | cons p ps ih => exact fun s hs => ih _ (unmanaged_step hs p)
    rcases hr : File.read source with e | f'
    · simp [current, hr, Except.mapError] at h
    obtain rfl : f' = f := by simpa [current, hr, Except.mapError] using h
    unfold File.read at hr
    split at hr
    · simp at hr
    next ps _ =>
    simp only [File.ofPieces] at hr
    split at hr
    · obtain rfl := Except.ok.inj hr
      exact hsteps ps .start (by simp [Unmanaged, ReadState.start])
    · simp at hr

/-! ### A block that is left -/

/-- The type of an enum without values stands in the new file. -/
lemma EnumChanges.exists_type {type : String} {cs : List Change} (h : EnumChanges type [] cs)
    (hr : Rewrites cs f g) :
    ∃ l₁ d l₂, g.decls = l₁ ++ d :: l₂ ∧ d.shape = .named type "string" ∧
      ∀ e ∈ l₁, e.shape.declares type = false := by
  have hg := hr.after
  cases h with
  | noBlock l₁ l₂ c typed first absent =>
    obtain ⟨d, hd, hshape, -⟩ := typed.exists_after
    refine ⟨l₁, d, l₂, ?_, hshape, first⟩
    simpa [filterMap_after_cons, hd, newBlock] using hg.symm
  | insertedType l₁ l₂ b block first absent =>
    refine ⟨l₁, enumTypeDecl type, l₂, ?_, rfl, fun e he => absent e (by simp [he])⟩
    simpa [filterMap_after_cons, blockChange] using hg.symm
  | blockBehind l₁ l₂ l₃ d b shape first block first' =>
    refine ⟨l₁, { d with managed := true }, l₂ ++ l₃, ?_, shape, first⟩
    simpa [filterMap_after_cons, blockChange] using hg.symm
  | blockBefore l₁ l₂ l₃ b d shape first block first' =>
    refine ⟨l₁ ++ l₂, { d with managed := true }, l₃, ?_, shape, fun e he => first e ?_⟩
    · simpa [filterMap_after_cons, blockChange] using hg.symm
    · simp only [List.mem_append, List.mem_cons] at he ⊢
      tauto

/-- A block that is left goes with the next merge. -/
lemma mergeEnum_drops {e : EnumType} (h : mergeEnum e f = .ok g)
    (hb : (Model.enum e).LeavesBlock g) (hr : List.Forall₂ Disowned g.decls g'.decls) :
    ∃ k, mergeEnum e g' = .ok k ∧ k.decls.length < g.decls.length := by
  obtain ⟨hv, d, hd, hblock⟩ := hb
  obtain ⟨cs, members, hcs, hm, hchanges⟩ := mergeEnum_changes h
  have hnone : enumMembers e.typeName e.values = .ok [] := by rw [hv]; rfl
  obtain rfl : members = [] := by simpa [hnone, eq_comm] using hm
  obtain ⟨l₁, t, l₂, hg, hshape, hfirst⟩ := hchanges.exists_type hcs
  have hlen : g.decls.length = g'.decls.length := hr.length_eq
  obtain ⟨d', hd', hrd⟩ : ∃ d' ∈ g'.decls, Disowned d d' := by
    obtain ⟨xs, ys, hxs⟩ := List.append_of_mem hd
    rw [hxs] at hr
    obtain ⟨k₁, d', k₂, hk, -, hrd, -⟩ := forall₂_split hr
    exact ⟨d', by simp [hk], hrd⟩
  rw [hg] at hr
  obtain ⟨k₁, t', k₂, hk, h₁, ht, h₂⟩ := forall₂_split hr
  have hloc : locateEnumType g' e.typeName = .ok (some k₁.length) :=
    locateEnumType_split hk (ht.shape.trans hshape)
      (shapes_of_disowned (p := fun s => s.declares e.typeName = false) h₁ hfirst)
  obtain ⟨k, hkdef⟩ : ∃ k, k = g'.setManaged k₁.length true := ⟨_, rfl⟩
  have hkd : k.decls = k₁ ++ { t' with managed := true } :: k₂ := by
    rw [hkdef, File.setManaged_split hk]
  refine ⟨syncImports (placeBlock e.typeName [] k₁.length k) [], ?_, ?_⟩
  · simp only [mergeEnum, bind, Except.bind, pure, Except.pure, hnone, hloc, checkMembers,
      withEnumType, hkdef]
  · rcases hl : locateEnumBlock k e.typeName with _ | j
    · -- the block that is left would have been found
      have hno := locateEnumBlock_eq_none.mp hl
      rw [hkd] at hno
      rw [hk] at hd'
      have hd'' : isEnumBlock e.typeName d'.shape = false := by
        rcases List.mem_append.mp hd' with hd' | hd'
        · exact hno d' (by simp [hd'])
        · rcases List.mem_cons.mp hd' with rfl | hd'
          · exact hno { d' with managed := true } (by simp)
          · exact hno d' (by simp [hd'])
      rw [hrd.shape, hblock] at hd''
      exact absurd hd'' (by simp)
    · obtain ⟨n₁, b, n₂, hn, -, hbl, hb₁⟩ := locateEnumBlock_eq_some hl
      rw [syncImports_decls, placeBlock_old hn hbl hb₁, hlen, hk]
      have hlen' := congrArg List.length (hkd.symm.trans hn)
      simp only [List.length_append, List.length_cons, blockChange, List.isEmpty_nil, ite_true,
        Change.after_dropped, Option.toList_none, List.length_nil] at hlen' ⊢
      omega

/-! ### The second merge -/

lemma setImport_importLeading (path : String) (keep : Bool) (h : f.importLeading = "") :
    (setImport f path keep).importLeading = "" := by
  unfold setImport File.addImport File.removeImport
  split_ifs <;> simp [h]

lemma syncImports_importLeading (needed : List String) (h : f.importLeading = "") :
    (syncImports f needed).importLeading = "" := by
  have key : ∀ (paths : List String) (keep : String → Bool) (g : File), g.importLeading = "" →
      (paths.foldl (fun g p => setImport g p (keep p)) g).importLeading = "" := by
    intro paths keep
    induction paths with
    | nil => exact fun _ hg => hg
    | cons p ps ih => exact fun g hg => ih _ (setImport_importLeading p (keep p) hg)
  exact key _ _ f h

lemma tidy_decls_of_readBack (hr : f.ReadBack g) : ∀ d ∈ g.decls, d.Tidy := by
  intro d hd
  obtain ⟨i, hi, rfl⟩ := List.mem_iff_getElem.mp hd
  exact (hr.decls.decls.get (by rw [hr.decls.decls.length_eq]; exact hi) hi).tidy

/-- Unless its comments have moved, a tidy file that is read back is tidy. -/
lemma tidy_of_readBack (hf : f.Tidy) (hr : f.ReadBack g) (hm : ¬ f.MovesComments) : g.Tidy where
  header := hr.header ▸ hf.header
  packageLine := hr.packageLine ▸ hf.packageLine
  importLeading := (hr.imports.same hm).1 ▸ hf.importLeading
  block := by
    rw [(hr.imports.same hm).1, (hr.imports.same hm).2, hr.importTail, Ne, sortedImports_eq_nil]
    exact hf.block
  imports s hs := by
    rw [(hr.imports.same hm).2] at hs
    exact hf.imports s (mem_of_mem_sortedImports hs)
  importTail := hr.importTail ▸ hf.importTail
  decls := tidy_decls_of_readBack hr
  trailer := hr.trailer ▸ hf.trailer

/-- A merge that drops a declaration shows in the print. -/
lemma print_ne_of_drop {k : File} (hm : m.Legal) (hg : g.Tidy) (hr : g.ReadBack g')
    (hk : m.merge g' = .ok k) (hlen : k.decls.length < g.decls.length) : k.print ≠ g.print := by
  have hne : k.Tidy → k.print ≠ g.print := by
    intro hk' h
    have := length_eq_of_print_eq hg hk' h
    omega
  by_cases hmoves : g.MovesComments
  · have hds := merge_tidy_decls hm (tidy_decls_of_readBack hr) hk
    obtain ⟨cs, hcs, -⟩ := merge_changes hk
    have hheader := hcs.header.trans hr.header
    have hpackage := hcs.packageLine.trans hr.packageLine
    have hlead : k.importLeading = "" := by
      obtain ⟨ds, needed, rfl⟩ := merge_eq_syncImports hk
      exact syncImports_importLeading (f := { g' with decls := ds }) needed
        (hr.imports.moved hmoves).1
    by_cases hi : k.imports = []
    · exact hne
        { header := hheader ▸ hg.header
          packageLine := hpackage ▸ hg.packageLine
          importLeading := hlead ▸ isComments_empty
          block := .inl hlead
          imports := by simp [hi]
          importTail := hcs.importTail ▸ hr.importTail ▸ hg.importTail
          decls := hds
          trailer := hcs.trailer ▸ hr.trailer ▸ hg.trailer }
    · exact print_ne_of_importLeading hg.importLeading hmoves.1 hheader hpackage hlead hi
  · exact hne (merge_tidy hm (tidy_of_readBack hg hr hmoves) hk)

/-- What a second merge makes of the print of the first. -/
lemma second_merge (hm : m.Legal) (ht : f.Tidy) (hun : ∀ d ∈ f.decls, d.managed = false)
    (hg : m.merge f = .ok g) :
    ∃ g' k, File.read g.print = .ok g' ∧ m.merge g' = .ok k ∧
      (k.print = g.print ↔ ¬ g.MovesComments ∧ ¬ m.LeavesBlock g) := by
  have htidy := merge_tidy hm ht hg
  obtain ⟨g', hread, hr⟩ := read_print htidy
  by_cases hb : m.LeavesBlock g
  · obtain ⟨k, hk, hlen⟩ : ∃ k, m.merge g' = .ok k ∧ k.decls.length < g.decls.length := by
      cases m with
      | enum e => exact mergeEnum_drops hg hb (disowned_of_readBack hr.decls.decls)
      | table t => exact hb.elim
      | composite c => exact hb.elim
    have hne := print_ne_of_drop hm htidy hr hk hlen
    exact ⟨g', k, hread, hk, fun he => absurd he hne, fun hc => absurd hb hc.2⟩
  · refine ⟨g', _, hread, merge_again hg hun hb hr, ?_⟩
    rw [print_reown hr.decls.decls]
    constructor
    · intro he
      refine ⟨fun hmoves => ?_, hb⟩
      obtain ⟨hlead, s, ls, -, -, himports⟩ := hr.imports.moved hmoves
      exact print_ne_of_importLeading htidy.importLeading hmoves.1 hr.header hr.packageLine hlead
        (by simp [himports]) he
    · rintro ⟨hmoves, -⟩
      exact print_of_readBack hr hmoves

/-- A table with one column. -/
def users : Table := { name := "users", columns := [⟨"id", { name := "integer" }⟩] }

lemma not_leavesBlock_of_empty (hf : f.decls = []) (hg : m.merge f = .ok g) :
    ¬ m.LeavesBlock g := by
  cases m with
  | table t => exact id
  | composite c => exact id
  | enum e =>
    rintro ⟨hv, b, hb, hblock⟩
    obtain ⟨cs, members, hr, hmembers, hcs⟩ := mergeEnum_changes hg
    obtain rfl : members = [] := by simpa [hv, enumMembers, membersFrom, eq_comm] using hmembers
    have hbefore := hr.before.trans hf
    have hafter := hr.after
    cases hcs with
    | noBlock l₁ l₂ c typed first absent =>
      obtain ⟨d, hd, hshape, -⟩ := typed.exists_after
      obtain ⟨hl₁, -, hl₂⟩ : l₁ = [] ∧ c.before.toList = [] ∧ l₂ = [] := by
        simpa [filterMap_before_cons, newBlock_before] using hbefore
      rw [← hafter] at hb
      obtain rfl : b = d := by simpa [filterMap_after_cons, hd, hl₁, hl₂, newBlock] using hb
      rw [hshape] at hblock
      simp at hblock
    | insertedType l₁ l₂ b => simp [filterMap_before_cons] at hbefore
    | blockBehind l₁ l₂ l₃ d b => simp at hbefore
    | blockBefore l₁ l₂ l₃ b d => simp at hbefore

/-- What is generated without an old file is a fixed point of the merge. -/
lemma mergeSource_new {package out : String} (hm : m.Legal) (hp : Lexeme.isWord package = true)
    (h : mergeSource m none package = .ok out) : mergeSource m (some out) package = .ok out := by
  obtain ⟨f, g, hf, hg, rfl⟩ := mergeSource_eq_ok_iff.mp h
  obtain rfl : File.empty package = f := by simpa [current] using hf
  obtain ⟨g', k, hread, hk, hiff⟩ := second_merge hm (tidy_empty hp) (by simp [File.empty]) hg
  have hmoves : ¬ g.MovesComments := by
    rintro ⟨hlead, -⟩
    obtain ⟨ds, needed, rfl⟩ := merge_eq_syncImports hg
    exact hlead (syncImports_importLeading needed rfl)
  have hprint := hiff.mpr ⟨hmoves, not_leavesBlock_of_empty rfl hg⟩
  refine mergeSource_eq_ok_iff.mpr ⟨g', k, ?_, hk, hprint⟩
  rw [current, hread]
  rfl

end SchemaGo.Merge
